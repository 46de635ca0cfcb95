import Resilience.Proofs.Call.Pause

/-! The retry loop. `Attempts` is its reference: it counts attempts upwards from any number and says
in which worlds they begin, when the policy is asked, and how the loop ends. The runs of a retried
task are just these, whatever the task, the policy and the others do. -/

namespace Resilience

namespace Call

variable {β ι ε τ : Type}

section

variable (runs : Runs τ β ι ε) (p : RetryPolicy ε) (x : Context)

/-- Attempt `k`, begun in `w` and looked at in the listed worlds, has failed with `e` under a live
context. The policy was asked about `k` and `e` where the attempt ended, and since then nothing but
its notes has changed. -/
inductive Asked (k : Nat) (w : World ε) (ws : List (World ε)) (t : τ) (e : Failure) :
    Except Crash Decision → World ε → Prop
  | intro {v : World ε} : runs w ws t (.done (.error e), v) → v.err x = none →
      Asked k w ws t e (p.decide v.now k e v.notes).1
        { v with notes := (p.decide v.now k e v.notes).2 }

/-- The loop from attempt `k` on, which begins in the given world and is looked at in the listed
ones. The second list has what is remembered of each attempt that was made. -/
inductive Attempts (rest : List (Layer ε)) (body : β) :
    Nat → World ε → List (World ε) → List τ → Step β ι ε → Prop
  | underway {k : Nat} {w v : World ε} {ws : List (World ε)} {t : τ} {c : Call β ι ε} :
      runs w ws t (.pending c, v) →
      Attempts rest body k w ws [t] (.pending (.attempting p x (lastAttempt - k) rest body c), v)
  | crashed {k : Nat} {w v : World ε} {ws : List (World ε)} {t : τ} {c : Crash} :
      runs w ws t (.crashed c, v) → Attempts rest body k w ws [t] (.crashed c, v)
  | succeeded {k : Nat} {w v : World ε} {ws : List (World ε)} {t : τ} :
      runs w ws t (.done (.ok ()), v) → Attempts rest body k w ws [t] (.done (.ok ()), v)
  | overtaken {k : Nat} {w v : World ε} {ws : List (World ε)} {t : τ} {e : Failure} {r : Reason} :
      runs w ws t (.done (.error e), v) → v.err x = some r →
      Attempts rest body k w ws [t] (.done (.error (.cancelled r)), v)
  | stuck {k : Nat} {w v : World ε} {ws : List (World ε)} {t : τ} {e : Failure} {c : Crash} :
      Asked runs p x k w ws t e (.error c) v → Attempts rest body k w ws [t] (.crashed c, v)
  | aborted {k : Nat} {w v : World ε} {ws : List (World ε)} {t : τ} {e : Failure} :
      Asked runs p x k w ws t e (.ok .abort) v →
      Attempts rest body k w ws [t] (.done (.error e), v)
  | exhausted {k : Nat} {w v : World ε} {ws : List (World ε)} {t : τ} {e : Failure} :
      Asked runs p x k w ws t e (.ok .exhausted) v →
      Attempts rest body k w ws [t] (.done (.error (.exhausted k e)), v)
  | spent {k : Nat} {w v : World ε} {ws : List (World ε)} {t : τ} {e : Failure} {d : Duration} :
      Asked runs p x k w ws t e (.ok (.retry d)) v → k = lastAttempt →
      Attempts rest body k w ws [t] (.done (.error (.exhausted k e)), v)
  | waiting {k : Nat} {w v : World ε} {ws us : List (World ε)} {t : τ} {e : Failure}
      {d : Duration} :
      Asked runs p x k w ws t e (.ok (.retry d)) v → k < lastAttempt → v.err x = none →
      d.isZero = false → (∀ u ∈ us, Unfinished x (v.clock.wake d) u) →
      Attempts rest body k w (ws ++ us) [t]
        (.pending (.pausing p x (lastAttempt - (k + 1)) (v.clock.wake d) rest body), us.getLastD v)
  | interrupted {k : Nat} {w v v' : World ε} {ws us : List (World ε)} {t : τ} {e : Failure}
      {d : Duration} {r : Reason} :
      Asked runs p x k w ws t e (.ok (.retry d)) v → k < lastAttempt →
      Interrupted x d v us v' r →
      Attempts rest body k w (ws ++ us) [t] (.done (.error (.cancelled r)), v')
  | again {k : Nat} {w v v' : World ε} {ws us ws' : List (World ε)} {t : τ} {e : Failure}
      {d : Duration} {ts : List τ} {s : Step β ι ε} :
      Asked runs p x k w ws t e (.ok (.retry d)) v → k < lastAttempt → Slept x d v us v' →
      Attempts rest body (k + 1) v' ws' ts s →
      Attempts rest body k w (ws ++ us ++ ws') (t :: ts) s

end

section

variable (p : RetryPolicy ε) (x : Context) (rest : List (Layer ε)) (body : β)

def attemptsFrom (once : World ε → Step β ι ε) (k : Nat) : World ε → Step β ι ε :=
  attempts p x rest body once (lastAttempt - k)

def paused (left : Nat) (again : World ε → Step β ι ε) (w : World ε) : Pause → Step β ι ε
  | .elapsed => again w
  | .ended r => (.done (cancelled r), w)
  | .wait wake => (.pending (.pausing p x left wake rest body), w)

def answered (once : World ε → Step β ι ε) (k : Nat) (e : Failure) (w : World ε) :
    Except Crash Decision → Step β ι ε
  | .error c => (.crashed c, w)
  | .ok .abort => (.done (.error e), w)
  | .ok .exhausted => (.done (.error (.exhausted k e)), w)
  | .ok (.retry d) =>
    if k < lastAttempt then
      paused p x rest body (lastAttempt - (k + 1)) (attemptsFrom p x rest body once (k + 1)) w
        (pause x d w.toAmbient)
    else (.done (.error (.exhausted k e)), w)

end

section

variable {work : Work β ι ε} {once : World ε → Step β ι ε} {runs : Runs τ β ι ε}
  {p : RetryPolicy ε} {x : Context} {rest : List (Layer ε)} {body : β} {k : Nat} {w v : World ε}
  {ws us : List (World ε)} {t : τ} {e : Failure} {answer : Except Crash Decision}
  {s : Step β ι ε}

lemma attemptsFrom_eq (w : World ε) : attemptsFrom p x rest body once k w =
    afterAttempt p x (lastAttempt - k) rest body (further p x rest body once (lastAttempt - k))
      (once w) := by
  unfold attemptsFrom
  cases lastAttempt - k <;> rfl

lemma afterAttempt_overtaken {left : Nat} {again : Option (World ε → Step β ι ε)} {r : Reason}
    (he : v.err x = some r) : afterAttempt p x left rest body again (.done (.error e), v) =
      (.done (.error (.cancelled r)), v) := by
  simp only [afterAttempt, verdict, he, cancelled]

lemma afterAttempt_failed (hk : k ≤ lastAttempt) (he : v.err x = none) :
    afterAttempt p x (lastAttempt - k) rest body (further p x rest body once (lastAttempt - k))
        (.done (.error e), v) =
      answered p x rest body once k e { v with notes := (p.decide v.now k e v.notes).2 }
        (p.decide v.now k e v.notes).1 := by
  have hattempt : lastAttempt - (lastAttempt - k) = k := by omega
  simp only [afterAttempt, hattempt, verdict, he]
  rcases (p.decide v.now k e v.notes).1 with c | d | _ | _
  · rfl
  · rcases Nat.lt_or_eq_of_le hk with hlt | rfl
    · have hleft : lastAttempt - k = lastAttempt - (k + 1) + 1 := by omega
      simp only [answered, if_pos hlt, hleft, further]
      cases pause x d { v with notes := (p.decide v.now k e v.notes).2 }.toAmbient <;> rfl
    · simp only [answered, Nat.lt_irrefl, if_false, Nat.sub_self, further]
  · rfl
  · rfl

lemma Asked.attempts (ha : Asked runs p x k w ws t e answer v) (hk : k ≤ lastAttempt)
    (hn : k < lastAttempt → ∀ v, ∃ ts, Attempts runs p x rest body (k + 1) v [] ts
      (attemptsFrom p x rest body once (k + 1) v)) :
    ∃ ts, Attempts runs p x rest body k w ws ts (answered p x rest body once k e v answer) := by
  rcases answer with c | d | _ | _
  · exact ⟨[t], .stuck ha⟩
  · simp only [answered]
    split
    · rename_i hlt
      cases hp : pause x d v.toAmbient with
      | elapsed =>
        obtain ⟨hl, hz⟩ := pause_eq_elapsed.mp hp
        obtain ⟨ts, hts⟩ := hn hlt v
        exact ⟨t :: ts, by simpa [paused] using Attempts.again ha hlt (.atOnce hl hz) hts⟩
      | ended r =>
        have hr := pause_eq_ended.mp hp
        exact ⟨[t], by
          simpa [paused, cancelled] using Attempts.interrupted ha hlt (.atOnce hr)⟩
      | wait wake =>
        obtain ⟨hl, hz, rfl⟩ := pause_eq_wait.mp hp
        have hu : ∀ u ∈ ([] : List (World ε)), Unfinished x (v.clock.wake d) u := by simp
        exact ⟨[t], by simpa [paused] using Attempts.waiting ha hlt hl hz hu⟩
    · exact ⟨[t], .spent ha (by omega)⟩
  · exact ⟨[t], .exhausted ha⟩
  · exact ⟨[t], .aborted ha⟩

lemma afterAttempt_attempts (hk : k ≤ lastAttempt) (ht : runs w ws t s)
    (hn : k < lastAttempt → ∀ v, ∃ ts, Attempts runs p x rest body (k + 1) v [] ts
      (attemptsFrom p x rest body once (k + 1) v)) :
    ∃ ts, Attempts runs p x rest body k w ws ts (afterAttempt p x (lastAttempt - k) rest body
      (further p x rest body once (lastAttempt - k)) s) := by
  obtain ⟨r, v⟩ := s
  rcases r with (e | _) | c | c
  · cases he : v.err x with
    | some r =>
      rw [afterAttempt_overtaken he]
      exact ⟨[t], .overtaken ht he⟩
    | none =>
      rw [afterAttempt_failed hk he]
      exact (Asked.intro ht he).attempts hk hn
  · exact ⟨[t], .succeeded ht⟩
  · exact ⟨[t], .crashed ht⟩
  · exact ⟨[t], .underway ht⟩

lemma attemptsFrom_attempts (hb : ∀ w, ∃ t, runs w [] t (once w)) (hk : k ≤ lastAttempt)
    (w : World ε) : ∃ ts, Attempts runs p x rest body k w [] ts
      (attemptsFrom p x rest body once k w) := by
  -- The number of attempts that are left gets smaller.
  induction hleft : lastAttempt - k generalizing k w with
  | zero =>
    obtain ⟨t, ht⟩ := hb w
    have hlast : ¬ k < lastAttempt := by omega
    rw [attemptsFrom_eq]
    exact afterAttempt_attempts hk ht fun h => absurd h hlast
  | succ left ih =>
    obtain ⟨t, ht⟩ := hb w
    rw [attemptsFrom_eq]
    exact afterAttempt_attempts hk ht fun h v => ih h v (by omega)

lemma Attempts.resumed (h : Describes work (start work rest body x) runs) {ts : List τ}
    (ha : Attempts runs p x rest body k w ws ts s) (hle : k ≤ lastAttempt)
    {c : Call β ι ε} (hs : s = (.pending c, v)) (w' : World ε) :
    ∃ ts', Attempts runs p x rest body k w (ws ++ [w']) ts' (c.resume work w') := by
  induction ha with
  | underway ht =>
    cases hs
    obtain ⟨t', ht'⟩ := h.resumed ht w'
    exact afterAttempt_attempts hle ht' fun hk => attemptsFrom_attempts h.begun hk
  | @waiting k w v _ us t e d ha hk he hz hu =>
    cases hs
    simp only [resume, List.append_assoc]
    cases hp : repause x (v.clock.wake d) w'.toAmbient with
    | ended r => exact ⟨[t], .interrupted ha hk (.later he hz hu (repause_eq_ended.mp hp))⟩
    | wait wake =>
      obtain ⟨hn, hw, rfl⟩ := repause_eq_wait.mp hp
      have hu' : ∀ u ∈ us ++ [w'], Unfinished x (v.clock.wake d) u := by
        simpa [or_imp, forall_and] using ⟨hu, hn, hw⟩
      exact ⟨[t], by simpa using Attempts.waiting ha hk he hz hu'⟩
    | elapsed =>
      obtain ⟨hn, hw⟩ := repause_eq_elapsed.mp hp
      obtain ⟨ts, hts⟩ := attemptsFrom_attempts h.begun hk w'
      have hagain := Attempts.again ha hk (.later he hz hu hn hw) hts
      rw [List.append_nil] at hagain
      exact ⟨t :: ts, hagain⟩
  | again ha hk hw _ ih =>
    obtain ⟨ts', hts⟩ := ih hk hs
    exact ⟨_ :: ts', by simpa using Attempts.again ha hk hw hts⟩
  | _ => cases hs

section

variable {v' : World ε} {d : Duration} {left : Nat} {s₀ : Step β ι ε}

lemma attemptsFrom_run (h : Run work anyone (start work rest body x w) ws s) :
    Run work anyone (attemptsFrom p x rest body (start work rest body x) k w) ws
      (afterAttempt p x (lastAttempt - k) rest body
        (further p x rest body (start work rest body x) (lastAttempt - k)) s) := by
  rw [attemptsFrom_eq]
  exact h.around (fun _ _ => rfl) fun _ _ => rfl

lemma Asked.answered_run
    (h : ∀ {w ws t s}, runs w ws t s → Run work anyone (start work rest body x w) ws s)
    (hk : k ≤ lastAttempt) (ha : Asked runs p x k w ws t e answer v) :
    Run work anyone (attemptsFrom p x rest body (start work rest body x) k w) ws
      (answered p x rest body (start work rest body x) k e v answer) := by
  cases ha with
  | intro ht he =>
    rw [← afterAttempt_failed hk he]
    exact attemptsFrom_run (h ht)

lemma paused_idle {again : World ε → Step β ι ε} (he : v.err x = none) (hz : d.isZero = false)
    (hu : ∀ u ∈ us, Unfinished x (v.clock.wake d) u)
    (h : Run work anyone s₀ ws (paused p x rest body left again v (pause x d v.toAmbient))) :
    Run work anyone s₀ (ws ++ us)
      (.pending (.pausing p x left (v.clock.wake d) rest body), us.getLastD v) := by
  rw [pause_eq_wait.mpr ⟨he, hz, rfl⟩] at h
  refine h.idle fun u hm => ?_
  obtain ⟨hn, hw⟩ := hu u hm
  simp only [resume, repause_eq_wait.mpr ⟨hn, hw, rfl⟩]

lemma Slept.run (hs : Slept x d v us v')
    (h : Run work anyone s₀ ws (paused p x rest body left
      (attempts p x rest body (start work rest body x) left) v (pause x d v.toAmbient))) :
    Run work anyone s₀ (ws ++ us) (attempts p x rest body (start work rest body x) left v') := by
  cases hs with
  | atOnce he hz =>
    rw [pause_eq_elapsed.mpr ⟨he, hz⟩] at h
    rw [List.append_nil]
    exact h
  | later he hz hu hn hw =>
    have hlast := (paused_idle he hz hu h).resumed v' trivial
    simp only [resume, repause_eq_elapsed.mpr ⟨hn, hw⟩] at hlast
    rwa [List.append_assoc] at hlast

lemma Interrupted.run {r : Reason} (hs : Interrupted x d v us v' r)
    {again : World ε → Step β ι ε}
    (h : Run work anyone s₀ ws (paused p x rest body left again v (pause x d v.toAmbient))) :
    Run work anyone s₀ (ws ++ us) (.done (.error (.cancelled r)), v') := by
  cases hs with
  | atOnce he =>
    rw [pause_eq_ended.mpr he] at h
    rw [List.append_nil]
    exact h
  | later he hz hu hn =>
    have hlast := (paused_idle he hz hu h).resumed v' trivial
    simp only [resume, repause_eq_ended.mpr hn] at hlast
    rwa [List.append_assoc] at hlast

lemma Attempts.genuine
    (h : ∀ {w ws t s}, runs w ws t s → Run work anyone (start work rest body x w) ws s)
    {ts : List τ} (ha : Attempts runs p x rest body k w ws ts s) (hle : k ≤ lastAttempt) :
    Run work anyone (attemptsFrom p x rest body (start work rest body x) k w) ws s := by
  have hretry {k w ws t e d v}
      (ha : Asked runs p x k w ws t e (.ok (.retry d)) v) (hk : k < lastAttempt) :
      Run work anyone (attemptsFrom p x rest body (start work rest body x) k w) ws
        (paused p x rest body (lastAttempt - (k + 1))
          (attemptsFrom p x rest body (start work rest body x) (k + 1)) v
          (pause x d v.toAmbient)) := by
    have hrun := ha.answered_run h (Nat.le_of_lt hk)
    rwa [answered, if_pos hk] at hrun
  induction ha with
  | underway ht | crashed ht | succeeded ht => exact attemptsFrom_run (h ht)
  | overtaken ht he =>
    rw [← afterAttempt_overtaken he]
    exact attemptsFrom_run (h ht)
  | stuck ha | aborted ha | exhausted ha => exact ha.answered_run h hle
  | spent ha hk =>
    have hrun := ha.answered_run h hle
    rwa [answered, if_neg (by omega)] at hrun
  | waiting ha hk he hz hu => exact paused_idle he hz hu (hretry ha hk)
  | interrupted ha hk hi => exact hi.run (hretry ha hk)
  | again ha hk hs _ ih => exact (hs.run (hretry ha hk)).append (ih hk)

end

theorem Describes.retry (h : Describes work (start work rest body x) runs) (p : RetryPolicy ε) :
    Describes work (start work (.retry p :: rest) body x) (Attempts runs p x rest body 1) where
  begun w := attemptsFrom_attempts h.begun (by decide) w
  resumed ha w' := ha.resumed h (by decide) rfl w'
  genuine ha := ha.genuine h.genuine (by decide)

lemma Asked.run {t : τ} {e : Failure} {answer : Except Crash Decision} {v : World ε}
    (h : Asked runs p x k w ws t e answer v) : ∃ s, runs w ws t s := by
  cases h with
  | intro ht _ => exact ⟨_, ht⟩

lemma Attempts.begins (begin : τ → World ε) (hb : ∀ {w ws t s}, runs w ws t s → begin t = w)
    {ts : List τ} {s : Step β ι ε} (h : Attempts runs p x rest body k w ws ts s) :
    ∃ t ts', ts = t :: ts' ∧ begin t = w ∧ ∀ t' ∈ ts', (begin t').noticed x = none := by
  induction h with
  | underway ht | crashed ht | succeeded ht | overtaken ht _ => exact ⟨_, [], rfl, hb ht, by simp⟩
  | stuck ha | aborted ha | exhausted ha | spent ha _ | waiting ha _ _ _ _ | interrupted ha _ _ =>
    obtain ⟨_, ht⟩ := ha.run
    exact ⟨_, [], rfl, hb ht, by simp⟩
  | again ha _ hw _ ih =>
    obtain ⟨_, ht⟩ := ha.run
    obtain ⟨t, ts, rfl, ht', hts⟩ := ih
    refine ⟨_, t :: ts, rfl, hb ht, fun t' hm => ?_⟩
    rcases List.mem_cons.mp hm with rfl | hm
    · rw [ht']
      exact hw.noticed
    · exact hts t' hm

end

def invocations (work : Work β ι ε) (t : Task β ε) (x : Context) : Runs (World ε) β ι ε :=
  fun w ws v s => v = w ∧ Run work anyone (ofTask work t x w) ws s

lemma describes_invocations (work : Work β ι ε) (t : Task β ε) (x : Context) :
    Describes work (ofTask work t x) (invocations work t x) where
  begun w := ⟨w, rfl, .begun⟩
  resumed h w' := ⟨_, h.1, h.2.resumed w' trivial⟩
  genuine h := h.2

theorem retried_call_follows_policy (work : Work β ι ε) (t : Task β ε) (p : RetryPolicy ε)
    (hp : p.budget ≠ some 0) (x : Context) (w : World ε) (ws : List (World ε)) (s : Step β ι ε) :
    (Run work anyone (ofTask work (t.retry p) x w) ws s ↔
      ∃ begins, Attempts (invocations work t x) p x t.layers t.body 1 w ws begins s) ∧
    ∀ begins, Attempts (invocations work t x) p x t.layers t.body 1 w ws begins s →
      ∀ v ∈ begins.tail, v.cancellation.isCancelled x.token = false := by
  have htask : t.retry p = t.wrap (.retry p) := if_neg hp
  refine ⟨?_, fun begins hb v hv => ?_⟩
  · rw [htask]
    exact ((describes_invocations work t x).retry p).run_iff
  · obtain ⟨_, later, rfl, _, hl⟩ := hb.begins id fun h => h.1
    exact (Context.noticed_eq_none_iff.mp (hl v hv)).1

def failing (e : Failure) : Work Unit Empty Unit where
  start _ _ a := (.done (.error e), a)
  resume i _ := nomatch i
  abandon i _ := nomatch i
  ready i _ := nomatch i
  timers i := nomatch i

def still : World Unit :=
  { clock := .start, cancellation := {}, notes := (), limiters := #[], breakers := #[] }

def atTick (n : Nat) : World Unit := { still with clock := still.clock.jump n }

def lone {ε : Type} : Task Unit ε := .ofBody "lone" ()

def threeTimes : RetryPolicy Unit :=
  .ofFunction fun k _ => if k < 3 then .retry (.ofMillis 1) else .exhausted

theorem third_failure_exhausts :
    threeTimes.budget ≠ some 0 ∧
    Run (failing .aborted) anyone
      (ofTask (failing .aborted) (lone.retry threeTimes) ⟨⟨0, []⟩, none⟩ still)
      [atTick 1, atTick 2] (.done (.error (.exhausted 3 .aborted)), atTick 2) ∧
    ∃ begins, Attempts (invocations (failing .aborted) lone ⟨⟨0, []⟩, none⟩) threeTimes
        ⟨⟨0, []⟩, none⟩ [] () 1 still [atTick 1, atTick 2] begins
        (.done (.error (.exhausted 3 .aborted)), atTick 2) ∧
      ∀ v ∈ begins.tail, v.cancellation.isCancelled ⟨0, []⟩ = false := by
  have hp : threeTimes.budget ≠ some 0 := nofun
  have h : Run (failing .aborted) anyone
      (ofTask (failing .aborted) (lone.retry threeTimes) ⟨⟨0, []⟩, none⟩ still)
      [] (.pending (.pausing threeTimes ⟨⟨0, []⟩, none⟩ 4294967293 1000000 [] ()), still) := .begun
  have h₂ := (h.resumed (atTick 1) trivial).resumed (atTick 2) trivial
  obtain ⟨hiff, hlive⟩ := retried_call_follows_policy (failing .aborted) lone threeTimes hp
    ⟨⟨0, []⟩, none⟩ still [atTick 1, atTick 2] (.done (.error (.exhausted 3 .aborted)), atTick 2)
  obtain ⟨begins, hb⟩ := hiff.mp h₂
  exact ⟨hp, h₂, begins, hb, hlive begins hb⟩

end Call

end Resilience
