import Resilience.Proofs.Call.Retry

namespace Resilience

namespace Call

variable {β ι ε τ : Type}

/-- A timeout of length `after` that begins in `w` under `x` lasts until `d`, and calls what is
below it in the world `v` under `y`. -/
structure Opened (after : Duration) (x : Context) (w : World ε) (d : Nat) (y : Context)
    (v : World ε) : Prop where
  live : w.err x = none
  deadline : w.clock.deadline? after = some d
  child : w.onAmbient (·.withDeadline x d) = (y, v)

inductive UnderTimeout (work : Work β ι ε) (runs : Context → Runs τ β ι ε) (after : Duration)
    (x : Context) : Runs (List τ) β ι ε
  | ended {w : World ε} {r : Reason} : w.err x = some r →
      UnderTimeout work runs after x w [] [] (.done (.error (.cancelled r)), w)
  | overflowed {w : World ε} : w.err x = none → w.clock.deadline? after = none →
      UnderTimeout work runs after x w [] [] (.crashed .deadlineOverflow, w)
  | through {w v : World ε} {d : Nat} {y : Context} {ws : List (World ε)} {t : τ}
      {s : Step β ι ε} : Opened after x w d y v → runs y v ws t s →
      (∀ u ∈ ws, Unfinished x d u) →
      UnderTimeout work runs after x w ws [t] (afterTimed x y d after s)
  | interrupted {w v v' u : World ε} {d : Nat} {y : Context} {ws : List (World ε)} {t : τ}
      {c : Call β ι ε} {r : Reason} : Opened after x w d y v → runs y v ws t (.pending c, v') →
      (∀ u ∈ ws, Unfinished x d u) → u.noticed x = some r →
      UnderTimeout work runs after x w (ws ++ [u]) [t]
        (.done (.error (.cancelled r)), cut work y c u)
  | elapsed {w v v' u : World ε} {d : Nat} {y : Context} {ws : List (World ε)} {t : τ}
      {c : Call β ι ε} : Opened after x w d y v → runs y v ws t (.pending c, v') →
      (∀ u ∈ ws, Unfinished x d u) → u.noticed x = none → u.clock.passed d = true →
      UnderTimeout work runs after x w (ws ++ [u]) [t]
        (.done (.error (.timedOut after)), cut work y c u)

inductive UnderLimiter (runs : Runs τ β ι ε) (id : Nat) (x : Context) (rest : List (Layer ε))
    (body : β) : Runs (List τ) β ι ε
  | failed {w v : World ε} {e : Failure} : queue id x w = (.failed e, v) →
      UnderLimiter runs id x rest body w [] [] (.done (.error e), v)
  | served {w v : World ε} {ws : List (World ε)} {t : τ} {s : Step β ι ε} :
      queue id x w = (.served, v) → runs v ws t s →
      UnderLimiter runs id x rest body w ws [t] s
  | waiting {w v : World ε} {wake : Nat} {us : List (World ε)} : queue id x w = (.wait wake, v) →
      (∀ u ∈ us, Unfinished x wake u) →
      UnderLimiter runs id x rest body w us []
        (.pending (.queueing id x wake rest body), us.getLastD v)
  | ended {w v u : World ε} {wake : Nat} {us : List (World ε)} {r : Reason} :
      queue id x w = (.wait wake, v) → (∀ u ∈ us, Unfinished x wake u) → u.noticed x = some r →
      UnderLimiter runs id x rest body w (us ++ [u]) [] (.done (.error (.cancelled r)), u)
  | again {w v u : World ε} {wake : Nat} {us ws : List (World ε)} {ts : List τ} {s : Step β ι ε} :
      queue id x w = (.wait wake, v) → (∀ u ∈ us, Unfinished x wake u) → u.noticed x = none →
      u.clock.passed wake = true → UnderLimiter runs id x rest body u ws ts s →
      UnderLimiter runs id x rest body w (us ++ [u] ++ ws) ts s

inductive UnderBreaker (runs : Runs τ β ι ε) (id : Nat) : Runs (List τ) β ι ε
  | rejected {w v : World ε} {e : Failure} : w.enter id = (.error e, v) →
      UnderBreaker runs id w [] [] (.done (.error e), v)
  | admitted {w v : World ε} {g : Guard} {ws : List (World ε)} {t : τ} {s : Step β ι ε} :
      w.enter id = (.ok g, v) → runs v ws t s → UnderBreaker runs id w ws [t] (afterAdmitted id g s)

inductive UnderObserver (runs : Runs τ β ι ε) (o : Observer ε) : Runs (List τ) β ι ε
  | through {w : World ε} {ws : List (World ε)} {t : τ} {s : Step β ι ε} :
      runs { w with notes := o.before w.now w.notes } ws t s →
      UnderObserver runs o w ws [t] (afterObserved o s)

section

variable {work : Work β ι ε} {rest : List (Layer ε)} {body : β} {x : Context}
  {s : Step β ι ε} {c : Call β ι ε} {v : World ε}

lemma pending_of_afterTimed {y : Context} {d : Nat} {after : Duration}
    (h : afterTimed x y d after s = (.pending c, v)) :
    ∃ c', s = (.pending c', v) ∧ c = .timed x y d after c' := by
  unfold afterTimed at h
  split at h
  · cases h
    exact ⟨_, rfl, rfl⟩
  · split at h <;> cases h
  · rename_i hn _
    exact absurd h (hn c v)

lemma pending_of_afterAdmitted {id : Nat} {g : Guard}
    (h : afterAdmitted id g s = (.pending c, v)) :
    ∃ c', s = (.pending c', v) ∧ c = .admitted id g c' := by
  unfold afterAdmitted at h
  split at h <;> cases h
  exact ⟨_, rfl, rfl⟩

lemma pending_of_afterObserved {o : Observer ε} (h : afterObserved o s = (.pending c, v)) :
    ∃ c', s = (.pending c', v) ∧ c = .observed o c' := by
  unfold afterObserved at h
  split at h
  · cases h
    exact ⟨_, rfl, rfl⟩
  · cases h
  · rename_i hn _
    exact absurd h (hn c v)

lemma Opened.start {w : World ε} {after : Duration} {d : Nat} {y : Context}
    (h : Opened after x w d y v) : start work (.timeout after :: rest) body x w =
      afterTimed x y d after (start work rest body y v) := by
  simp only [Call.start, h.live, h.deadline, h.child]

lemma UnderTimeout.genuine {runs : Context → Runs τ β ι ε} {after : Duration} {w : World ε}
    {ws : List (World ε)} {ts : List τ}
    (hg : ∀ {y w ws t s}, runs y w ws t s → Run work anyone (start work rest body y w) ws s)
    (h : UnderTimeout work runs after x w ws ts s) :
    Run work anyone (start work (.timeout after :: rest) body x w) ws s := by
  have hthrough {v d y ws t s} (ho : Opened after x w d y v) (ht : runs y v ws t s)
      (hu : ∀ u ∈ ws, Unfinished x d u) :
      Run work anyone (start work (.timeout after :: rest) body x w) ws
        (afterTimed x y d after s) := by
    have hresume (c : Call β ι ε) (u : World ε) (hu : Unfinished x d u) :
        resume work (.timed x y d after c) u = afterTimed x y d after (resume work c u) := by
      simp [resume, hu.1, hu.2]
    rw [ho.start]
    exact (hg ht).wrap (fun _ _ => rfl) hresume hu
  cases h with
  | ended he =>
    simp only [start, he, cancelled]
    exact .begun
  | overflowed he hd =>
    simp only [start, he, hd]
    exact .begun
  | through ho ht hu => exact hthrough ho ht hu
  | @interrupted _ _ _ u _ _ _ _ _ _ ho ht hu hn =>
    have hlast := (hthrough ho ht hu).resumed u trivial
    simpa only [resume, hn, cancelled] using hlast
  | @elapsed _ _ _ u _ _ _ _ _ ho ht hu hn hp =>
    have hlast := (hthrough ho ht hu).resumed u trivial
    simpa only [resume, hn, hp, if_true] using hlast

lemma Describes.timeout {runs : Context → Runs τ β ι ε}
    (h : ∀ y, Describes work (start work rest body y) (runs y)) (after : Duration) :
    Describes work (start work (.timeout after :: rest) body x)
      (UnderTimeout work runs after x) where
  begun w := by
    simp only [start]
    cases he : w.err x with
    | some r => exact ⟨[], .ended he⟩
    | none =>
      cases hd : w.clock.deadline? after with
      | none => exact ⟨[], .overflowed he hd⟩
      | some d =>
        obtain ⟨t, ht⟩ := (h _).begun (w.onAmbient (·.withDeadline x d)).2
        exact ⟨[t], .through ⟨he, hd, rfl⟩ ht (by simp)⟩
  resumed {w ws ts c v} ha u := by
    generalize hs : (Progress.pending c, v) = s at ha
    cases ha with
    | @through _ _ d y _ t s ho ht hu =>
      obtain ⟨c', rfl, rfl⟩ := pending_of_afterTimed hs.symm
      simp only [resume]
      cases hn : u.noticed x with
      | some r => exact ⟨[t], .interrupted ho ht hu hn⟩
      | none =>
        cases hp : u.clock.passed d with
        | true => exact ⟨[t], .elapsed ho ht hu hn hp⟩
        | false =>
          obtain ⟨t', ht'⟩ := (h y).resumed ht u
          have hu' : ∀ u' ∈ ws ++ [u], Unfinished x d u' := by
            simpa [or_imp, forall_and] using ⟨hu, hn, hp⟩
          exact ⟨[t'], .through ho ht' hu'⟩
    | _ => cases hs
  genuine ha := UnderTimeout.genuine (fun ht => (h _).genuine ht) ha

section

variable {id wake : Nat}

lemma resume_queueing_ended {r : Reason} (h : repause x wake v.toAmbient = .ended r) :
    resume work (.queueing id x wake rest body) v = (.done (.error (.cancelled r)), v) := by
  simp only [resume, h, cancelled]

lemma resume_queueing_wait {wake' : Nat} (h : repause x wake v.toAmbient = .wait wake') :
    resume work (.queueing id x wake rest body) v =
      (.pending (.queueing id x wake rest body), v) := by
  simp only [resume, h]

lemma resume_queueing_elapsed (h : repause x wake v.toAmbient = .elapsed) :
    resume work (.queueing id x wake rest body) v =
      start work (.limiter id :: rest) body x v := by
  simp only [resume, h]
  rfl

end

lemma limited_begun {runs : Runs τ β ι ε} (h : Describes work (start work rest body x) runs)
    (id : Nat) (w : World ε) : ∃ ts, UnderLimiter runs id x rest body w [] ts
      (start work (.limiter id :: rest) body x w) := by
  simp only [start]
  rcases hq : queue id x w with ⟨_ | e | wake, v⟩
  · obtain ⟨t, ht⟩ := h.begun v
    exact ⟨[t], .served hq ht⟩
  · exact ⟨[], .failed hq⟩
  · exact ⟨[], .waiting hq (by simp)⟩

lemma UnderLimiter.resumed {runs : Runs τ β ι ε} (h : Describes work (start work rest body x) runs)
    {id : Nat} {w : World ε} {ws : List (World ε)} {ts : List τ}
    (ha : UnderLimiter runs id x rest body w ws ts s) (hs : s = (.pending c, v)) (u : World ε) :
    ∃ ts', UnderLimiter runs id x rest body w (ws ++ [u]) ts' (c.resume work u) := by
  induction ha with
  | served hq ht =>
    cases hs
    obtain ⟨t', ht'⟩ := h.resumed ht u
    exact ⟨[t'], .served hq ht'⟩
  | @waiting w v wake us hq hu =>
    cases hs
    cases hp : repause x wake u.toAmbient with
    | ended r =>
      rw [resume_queueing_ended hp]
      exact ⟨[], .ended hq hu (repause_eq_ended.mp hp)⟩
    | wait wake' =>
      rw [resume_queueing_wait hp]
      obtain ⟨hn, hw, _⟩ := repause_eq_wait.mp hp
      have hu' : ∀ u' ∈ us ++ [u], Unfinished x wake u' := by
        simpa [or_imp, forall_and] using ⟨hu, hn, hw⟩
      exact ⟨[], by simpa using UnderLimiter.waiting hq hu'⟩
    | elapsed =>
      rw [resume_queueing_elapsed hp]
      obtain ⟨hn, hw⟩ := repause_eq_elapsed.mp hp
      obtain ⟨ts, hts⟩ := limited_begun h id u
      exact ⟨ts, by simpa using UnderLimiter.again hq hu hn hw hts⟩
  | again hq hu hn hw _ ih =>
    obtain ⟨ts', hts⟩ := ih hs
    exact ⟨ts', by simpa using UnderLimiter.again hq hu hn hw hts⟩
  | _ => cases hs

lemma limited_idle (work : Work β ι ε) (rest : List (Layer ε)) (body : β) {id wake : Nat}
    {w : World ε} {us : List (World ε)} (hq : queue id x w = (.wait wake, v))
    (hu : ∀ u ∈ us, Unfinished x wake u) :
    Run work anyone (start work (.limiter id :: rest) body x w) us
      (.pending (.queueing id x wake rest body), us.getLastD v) := by
  have hbegun : Run work anyone (start work (.limiter id :: rest) body x w) []
      (.pending (.queueing id x wake rest body), v) := by
    simp only [start, hq]
    exact .begun
  refine hbegun.idle fun u hm => ?_
  obtain ⟨hn, hw⟩ := hu u hm
  exact resume_queueing_wait (repause_eq_wait.mpr ⟨hn, hw, rfl⟩)

lemma UnderLimiter.genuine {runs : Runs τ β ι ε} {id : Nat} {w : World ε} {ws : List (World ε)}
    {ts : List τ}
    (hg : ∀ {w ws t s}, runs w ws t s → Run work anyone (start work rest body x w) ws s)
    (h : UnderLimiter runs id x rest body w ws ts s) :
    Run work anyone (start work (.limiter id :: rest) body x w) ws s := by
  induction h with
  | failed hq =>
    simp only [start, hq]
    exact .begun
  | served hq ht =>
    simp only [start, hq]
    exact hg ht
  | waiting hq hu => exact limited_idle work rest body hq hu
  | @ended _ _ u _ _ _ hq hu hn =>
    have hlast := (limited_idle work rest body hq hu).resumed u trivial
    rwa [resume_queueing_ended (repause_eq_ended.mpr hn)] at hlast
  | @again _ _ u _ _ _ _ _ hq hu hn hw _ ih =>
    have hnext := (limited_idle work rest body hq hu).resumed u trivial
    rw [resume_queueing_elapsed (repause_eq_elapsed.mpr ⟨hn, hw⟩)] at hnext
    exact hnext.append ih

lemma Describes.limiter {runs : Runs τ β ι ε} (h : Describes work (start work rest body x) runs)
    (id : Nat) : Describes work (start work (.limiter id :: rest) body x)
      (UnderLimiter runs id x rest body) where
  begun w := limited_begun h id w
  resumed ha u := ha.resumed h rfl u
  genuine ha := ha.genuine h.genuine

lemma Describes.breaker {runs : Runs τ β ι ε} (h : Describes work (start work rest body x) runs)
    (id : Nat) : Describes work (start work (.breaker id :: rest) body x)
      (UnderBreaker runs id) where
  begun w := by
    simp only [start]
    rcases he : w.enter id with ⟨e | g, v⟩
    · exact ⟨[], .rejected he⟩
    · obtain ⟨t, ht⟩ := h.begun v
      exact ⟨[t], .admitted he ht⟩
  resumed {w ws ts c v} ha u := by
    generalize hs : (Progress.pending c, v) = s at ha
    cases ha with
    | rejected he => cases hs
    | admitted he ht =>
      obtain ⟨c', rfl, rfl⟩ := pending_of_afterAdmitted hs.symm
      obtain ⟨t', ht'⟩ := h.resumed ht u
      exact ⟨[t'], .admitted he ht'⟩
  genuine ha := by
    cases ha with
    | rejected he =>
      simp only [start, he]
      exact .begun
    | @admitted _ _ g _ _ _ he ht =>
      simp only [start, he]
      exact (h.genuine ht).around (fun _ _ => rfl) fun _ _ => rfl

lemma Describes.observer {runs : Runs τ β ι ε} (h : Describes work (start work rest body x) runs)
    (o : Observer ε) : Describes work (start work (.observe o :: rest) body x)
      (UnderObserver runs o) where
  begun w := by
    obtain ⟨t, ht⟩ := h.begun { w with notes := o.before w.now w.notes }
    exact ⟨[t], .through ht⟩
  resumed {w ws ts c v} ha u := by
    generalize hs : (Progress.pending c, v) = s at ha
    cases ha with
    | through ht =>
      obtain ⟨c', rfl, rfl⟩ := pending_of_afterObserved hs.symm
      obtain ⟨t', ht'⟩ := h.resumed ht u
      exact ⟨[t'], .through ht'⟩
  genuine ha := by
    cases ha with
    | through ht =>
      exact (h.genuine ht).around (fun _ _ => rfl) fun _ _ => rfl

end

def Under (work : Work β ι ε) (rest : List (Layer ε)) (body : β) (runs : Context → Runs τ β ι ε)
    (x : Context) : Layer ε → Runs (List τ) β ι ε
  | .timeout after => UnderTimeout work runs after x
  | .limiter id => UnderLimiter (runs x) id x rest body
  | .breaker id => UnderBreaker (runs x) id
  | .retry p => Attempts (runs x) p x rest body 1
  | .observe o => UnderObserver (runs x) o

theorem Describes.under {work : Work β ι ε} {rest : List (Layer ε)} {body : β}
    {runs : Context → Runs τ β ι ε} (h : ∀ y, Describes work (start work rest body y) (runs y))
    (l : Layer ε) (x : Context) :
    Describes work (start work (l :: rest) body x) (Under work rest body runs x l) := by
  cases l with
  | timeout after => exact .timeout h after
  | limiter id => exact (h x).limiter id
  | breaker id => exact (h x).breaker id
  | retry p => exact (h x).retry p
  | observe o => exact (h x).observer o

end Call

end Resilience
