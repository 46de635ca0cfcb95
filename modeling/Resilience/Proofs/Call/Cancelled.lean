import Resilience.Proofs.Call.Account
import Resilience.Proofs.Call.LateTimer
import Resilience.Proofs.Call.Spared

/-! Calls that report a cancellation. If the innermost work reports one only when its context has
ended, then so does every chain of layers around it: below a timeout the context also ends when the
timeout is over, but then the layer reports that instead. -/

namespace Resilience

namespace Work

variable {β ι ε : Type}

/-- An invocation under `x` that waits in a state while its context is spared. -/
inductive Invocation (work : Work β ι ε) (since : Nat) (x : Context) : ι → Ambient ε → Prop
  | begun {body : β} {i : ι} {a b : Ambient ε} : a.Sound since x →
      work.start body x a = (.pending i, b) → Invocation work since x i b
  | waited {i : ι} {a b : Ambient ε} : Invocation work since x i a → a.Spares since x b →
      Invocation work since x i b
  | resumed {i j : ι} {a b : Ambient ε} : Invocation work since x i a →
      work.resume i a = (.pending j, b) → Invocation work since x j b

structure Fair (since : Nat) (x : Context) (a : Ambient ε) (s : Progress ι × Ambient ε) : Prop where
  spares : a.Spares since x s.2
  ended : ∀ r, s.1 = .done (.error (.cancelled r)) → s.2.Ended x r

/-- The work does not cancel the context that it receives, nor those between it and the caller's;
and it reports that it is cancelled only under a context that has ended. -/
structure Honest (work : Work β ι ε) (since : Nat) : Prop where
  start : ∀ {body x a}, a.Sound since x → Fair since x a (work.start body x a)
  resume : ∀ {i x a}, work.Invocation since x i a → Fair since x a (work.resume i a)
  abandon : ∀ {i x a}, work.Invocation since x i a → a.Spares since x (work.abandon i a)

end Work

namespace Call

variable {β ι ε : Type}

def own : Call β ι ε → List Nat
  | timed _ y _ _ c => y.token.id :: own c
  | admitted _ _ c | attempting _ _ _ _ _ c | observed _ c => own c
  | working _ | queueing .. | pausing .. => []

/-- Others that leave alone what they cannot know of. -/
def considerate : Others β ι ε := fun c w w' =>
  w.toAmbient.Later w'.toAmbient ∧
    ∀ i ∈ c.own, i ∈ w'.cancellation.cancelled → i ∈ w.cancellation.cancelled

def Sits (work : Work β ι ε) (since : Nat) : Call β ι ε → Context → Ambient ε → Prop
  | working i, x, a => work.Invocation since x i a
  | timed caller y d _ c, x, a => caller = x ∧ a.Inside since x y d ∧ c.Sits work since y a
  | queueing _ y _ _ _, x, _ | pausing _ y _ _ _ _, x, _ => y = x
  | admitted _ _ c, x, a | observed _ c, x, a => c.Sits work since x a
  | attempting _ y _ _ _ c, x, a => y = x ∧ c.Sits work since x a

structure Proper (work : Work β ι ε) (since : Nat) (x : Context) (a : Ambient ε)
    (s : Step β ι ε) : Prop where
  spares : a.Spares since x s.2.toAmbient
  ended : ∀ r, s.1 = .done (.error (.cancelled r)) → s.2.Ended x r
  sits : ∀ c, s.1 = .pending c → c.Sits work since x s.2.toAmbient

variable {work : Work β ι ε} {since : Nat} {x y : Context} {a b : Ambient ε} {c : Call β ι ε}
  {s : Step β ι ε} {w v : World ε} {o : Outcome} {d : Nat} {after : Duration}
  {p : RetryPolicy ε} {rest : List (Layer ε)} {body : β}

lemma Sits.spared (hs : c.Sits work since x a) (h : a.Spares since x b)
    (ho : ∀ i ∈ c.own, i ∈ b.cancellation.cancelled → i ∈ a.cancellation.cancelled) :
    c.Sits work since x b := by
  induction c generalizing x with
  | working i => exact .waited hs h
  | timed caller y d _ c ih =>
    obtain ⟨rfl, hy, hc⟩ := hs
    obtain ⟨hid, ho⟩ := List.forall_mem_cons.mp ho
    exact ⟨rfl, hy.later h.toLater hid, ih hc (hy.spares h hid) ho⟩
  | queueing _ y _ _ _ | pausing _ y _ _ _ _ => exact hs
  | admitted _ _ c ih | observed _ c ih => exact ih hs h ho
  | attempting _ y _ _ _ c ih => exact ⟨hs.1, ih hs.2 h ho⟩

namespace Proper

lemma done (hs : a.Spares since x v.toAmbient)
    (h : ∀ r, o = .error (.cancelled r) → v.Ended x r) : Proper work since x a (.done o, v) where
  spares := hs
  ended r hr := h r (Progress.done.inj hr)
  sits _ hc := nomatch hc

lemma crashed (hs : a.Spares since x v.toAmbient) (k : Crash) :
    Proper work since x a (.crashed k, v) where
  spares := hs
  ended _ hr := nomatch hr
  sits _ hc := nomatch hc

lemma pending (hs : a.Spares since x v.toAmbient) (hc : c.Sits work since x v.toAmbient) :
    Proper work since x a (.pending c, v) where
  spares := hs
  ended _ hr := nomatch hr
  sits _ h := Progress.pending.inj h ▸ hc

lemma cancelled {r : Reason} (hs : a.Spares since x v.toAmbient) (h : v.Ended x r) :
    Proper work since x a (.done (cancelled r), v) :=
  .done hs fun r' hr => by
    cases hr
    exact h

lemma trans (hs : a.Spares since x b) (h : Proper work since x b s) : Proper work since x a s where
  spares := hs.trans h.spares
  ended := h.ended
  sits := h.sits

lemma working {q : Progress ι × Ambient ε} (h : Work.Fair since x w.toAmbient q)
    (hi : ∀ i, q.1 = .pending i → work.Invocation since x i q.2) :
    Proper work since x w.toAmbient (q.1.map .working, { w with toAmbient := q.2 }) := by
  obtain ⟨r, b⟩ := q
  cases r with
  | done o => exact .done h.spares fun r hr => h.ended r (congrArg _ hr)
  | crashed k => exact .crashed h.spares k
  | pending i => exact .pending h.spares (hi i rfl)

lemma timed (hy : a.Inside since x y d) (h : Proper work since y a s) (after : Duration) :
    Proper work since x a (afterTimed x y d after s) := by
  have hs := hy.caller h.spares
  unfold afterTimed
  split
  · rename_i c v
    exact .pending hs ⟨rfl, hy.spared h.spares, h.sits c rfl⟩
  · rename_i v
    split
    · exact .done hs (by simp)
    · rename_i hover
      refine .done hs fun r hr => ?_
      rcases (hy.spared h.spares).ended (h.ended _ rfl) with hx | ⟨_, hx, hd⟩
      · cases hr
        exact hx
      · exact absurd ⟨by rw [hx]; rfl, hd⟩ hover
  · rename_i hpending hdeadline
    refine ⟨hs, fun r hr => ?_, fun c hc => ?_⟩
    · rcases (hy.spared h.spares).ended (h.ended r hr) with hx | ⟨rfl, _, _⟩
      · exact hx
      · exact (hdeadline s.2 (Prod.ext hr rfl)).elim
    · exact (hpending c s.2 (Prod.ext hc rfl)).elim

lemma admitted (h : Proper work since x a s) (id : Nat) (g : Guard) :
    Proper work since x a (afterAdmitted id g s) := by
  have hs : ∀ q, a.Spares since x (s.2.settle id g q).toAmbient := fun _ => h.spares
  unfold afterAdmitted
  split
  · rename_i c v
    exact .pending h.spares (h.sits c rfl)
  · exact .crashed (hs _) _
  · exact .done (hs _) fun r hr => h.ended r (congrArg _ hr)

lemma observed (h : Proper work since x a s) (o : Observer ε) :
    Proper work since x a (afterObserved o s) := by
  unfold afterObserved
  split
  · rename_i c v
    exact .pending h.spares (h.sits c rfl)
  · exact .done (h.spares.trans (.of_eq rfl rfl)) fun r hr => h.ended r (congrArg _ hr)
  · exact h

lemma attempt (h : Proper work since x a s) (hx : a.Sound since x) (left : Nat)
    {again : Option (World ε → Step β ι ε)}
    (hagain : ∀ f ∈ again, ∀ v : World ε, v.Sound since x → Proper work since x v.toAmbient (f v)) :
    Proper work since x a (afterAttempt p x left rest body again s) := by
  obtain ⟨r, v⟩ := s
  have hs : a.Spares since x v.toAmbient := h.spares
  rcases r with (e | _) | k | c
  · cases he : v.err x with
    | some r =>
      simp only [afterAttempt, verdict, he]
      exact .cancelled hs (Ambient.ended_of_err he)
    | none =>
      simp only [afterAttempt, verdict, he]
      have hasked : a.Spares since x
          { v with notes := (p.decide v.now (lastAttempt - left) e v.notes).2 }.toAmbient :=
        hs.trans (.of_eq rfl rfl)
      rcases (p.decide v.now (lastAttempt - left) e v.notes).1 with k | pause | _ | _
      · exact .crashed hasked k
      · cases again with
        | none => exact .done hasked (by simp)
        | some f =>
          dsimp only
          split
          · exact .trans hasked (hagain f rfl _ (hx.later hasked.toLater))
          · rename_i r hp
            exact .cancelled hasked (Ambient.ended_of_err (pause_eq_ended.mp hp))
          · exact .pending hasked rfl
      · exact .done hasked (by simp)
      · exact .done hasked fun r hr => h.ended r (congrArg _ hr)
  · exact .done hs (by simp)
  · exact .crashed hs k
  · exact .pending hs ⟨rfl, h.sits c rfl⟩

lemma attempts {once : World ε → Step β ι ε}
    (honce : ∀ w : World ε, w.Sound since x → Proper work since x w.toAmbient (once w)) (left : Nat)
    (hx : w.Sound since x) :
    Proper work since x w.toAmbient (Call.attempts p x rest body once left w) := by
  induction left generalizing w with
  | zero => exact (honce w hx).attempt hx 0 (by simp)
  | succ left ih =>
    refine (honce w hx).attempt hx (left + 1) fun f hf v hv => ?_
    cases hf
    exact ih hv

end Proper

lemma queue_keeps {id : Nat} {q : Queue} (h : queue id x w = (q, v)) :
    v.toAmbient = w.toAmbient ∧ ∀ r, q = .failed (.cancelled r) → w.err x = some r := by
  unfold queue at h
  split at h
  · rename_i r hr
    cases h
    refine ⟨rfl, fun r' hr' => ?_⟩
    cases hr'
    exact hr
  · split at h <;> rename_i hq <;> cases h <;> exact ⟨congrArg (·.2.toAmbient) hq.symm, by simp⟩

theorem start_proper (hwork : work.Honest since) (layers : List (Layer ε)) (body : β)
    (hx : w.Sound since x) : Proper work since x w.toAmbient (start work layers body x w) := by
  induction layers generalizing x w with
  | nil => exact .working (hwork.start hx) fun i hi => .begun hx (Prod.ext hi rfl)
  | cons l rest ih =>
    cases l with
    | timeout after =>
      simp only [start]
      split
      · rename_i r he
        exact .cancelled (.refl ..) (Ambient.ended_of_err he)
      · split
        · exact .crashed (.refl ..) _
        · rename_i d _
          have hmade : w.toAmbient.Spares since x (w.onAmbient (·.withDeadline x d)).2.toAmbient :=
            Ambient.spares_withDeadline x d w.toAmbient
          have hy : (w.onAmbient (·.withDeadline x d)).2.Inside since x
              (w.onAmbient (·.withDeadline x d)).1 d := hx.inside d
          exact .trans hmade (.timed hy (ih (hy.sound (hx.later hmade.toLater))) after)
    | limiter id =>
      simp only [start]
      rcases hq : queue id x w with ⟨q, v⟩
      obtain ⟨hv, hr⟩ := queue_keeps hq
      have hs : w.toAmbient.Spares since x v.toAmbient := hv ▸ .refl ..
      cases q with
      | served => exact .trans hs (ih (hx.later hs.toLater))
      | failed e =>
        refine .done hs fun r he => ?_
        cases he
        exact Ambient.ended_of_err (hv ▸ hr r rfl)
      | wait wake => exact .pending hs rfl
    | breaker id =>
      simp only [start]
      rcases he : w.enter id with ⟨e | g, v⟩
      · have hv : v.toAmbient = w.toAmbient := congrArg (·.2.toAmbient) he.symm
        obtain ⟨t, rfl⟩ := raises_of_enter he
        exact .done (hv ▸ .refl ..) (by simp)
      · have hv : v.toAmbient = w.toAmbient := congrArg (·.2.toAmbient) he.symm
        exact .trans (hv ▸ .refl ..) ((ih (hv ▸ hx)).admitted id g)
    | retry p => exact .attempts (fun v hv => ih hv) _ hx
    | observe o =>
      have hs : w.toAmbient.Spares since x { w with notes := o.before w.now w.notes }.toAmbient :=
        .of_eq rfl rfl
      exact .trans hs ((ih (hx.later hs.toLater)).observed o)

lemma Sits.drop (hwork : work.Honest since) (hs : c.Sits work since x w.toAmbient) :
    w.toAmbient.Spares since x (drop work c w).toAmbient := by
  induction c generalizing x with
  | working i => exact hwork.abandon hs
  | timed caller y d _ c ih => exact hs.2.1.caller (ih hs.2.2)
  | queueing _ _ _ _ _ | pausing _ _ _ _ _ _ => exact .refl ..
  | admitted _ _ c ih | observed _ c ih => exact ih hs
  | attempting _ _ _ _ _ c ih => exact ih hs.2

lemma Sits.cut (hwork : work.Honest since) (hy : w.Inside since x y d)
    (hs : c.Sits work since y w.toAmbient) :
    w.toAmbient.Spares since x (cut work y c w).toAmbient := by
  have hdrop := hs.drop hwork
  exact (hy.caller hdrop).trans (hy.spared hdrop).spares_cancel

lemma ended_of_noticed {r : Reason} (h : w.noticed x = some r) : w.Ended x r :=
  Ambient.ended_of_err (Context.err_of_noticed h)

theorem resume_proper (hwork : work.Honest since) (hs : c.Sits work since x w.toAmbient)
    (hx : w.Sound since x) : Proper work since x w.toAmbient (resume work c w) := by
  induction c generalizing x with
  | working i => exact .working (hwork.resume hs) fun j hj => .resumed hs (Prod.ext hj rfl)
  | timed caller y d after c ih =>
    obtain ⟨rfl, hy, hc⟩ := hs
    have hcut := hc.cut hwork hy
    simp only [resume]
    split
    · rename_i r hr
      exact .cancelled hcut ((ended_of_noticed hr).later hcut.toLater)
    · split
      · exact .done hcut (by simp)
      · exact .timed hy (ih hc (hy.sound hx)) after
  | queueing id y wake rest body =>
    cases hs
    cases hp : repause y wake w.toAmbient with
    | ended r =>
      rw [resume_queueing_ended hp]
      exact .cancelled (.refl ..) (ended_of_noticed (repause_eq_ended.mp hp))
    | wait wake' =>
      rw [resume_queueing_wait hp]
      exact .pending (.refl ..) rfl
    | elapsed =>
      rw [resume_queueing_elapsed hp]
      exact start_proper hwork _ body hx
  | admitted id g c ih => exact (ih hs hx).admitted id g
  | attempting p y left rest body c ih =>
    obtain ⟨rfl, hc⟩ := hs
    refine (ih hc hx).attempt hx left fun f hf v hv => ?_
    cases left with
    | zero => cases hf
    | succ left =>
      cases hf
      exact .attempts (fun v hv => start_proper hwork rest body hv) left hv
  | pausing p y left wake rest body =>
    cases hs
    simp only [resume]
    split
    · rename_i r hr
      exact .cancelled (.refl ..) (ended_of_noticed (repause_eq_ended.mp hr))
    · exact .pending (.refl ..) rfl
    · exact .attempts (fun v hv => start_proper hwork rest body hv) left hx
  | observed o c ih => exact (ih hs hx).observed o

lemma run_proper (hwork : work.Honest since) {layers : List (Layer ε)} (hx : w.Sound since x)
    (hbefore : ∀ i ∈ x.token.lineage, i < since) {ws : List (World ε)}
    (h : Run work considerate (start work layers body x w) ws s) :
    ∃ a : Ambient ε, a.Sound since x ∧ Proper work since x a s := by
  induction h with
  | begun => exact ⟨w.toAmbient, hx, start_proper hwork layers body hx⟩
  | @resumed _ c v _ w' hothers ih =>
    obtain ⟨a, ha, hp⟩ := ih
    obtain ⟨hlater, hown⟩ := hothers
    have hv : v.Sound since x := ha.later hp.spares.toLater
    have hspares : v.Spares since x w'.toAmbient :=
      ⟨hlater, fun i hi hs => absurd hs (Nat.not_le_of_lt (hbefore i hi))⟩
    have hsits := (hp.sits c rfl).spared hspares hown
    exact ⟨w'.toAmbient, hv.later hlater, resume_proper hwork hsits (hv.later hlater)⟩

theorem cancelled_call_has_ended_context (work : Work β ι ε) (layers : List (Layer ε)) (body : β)
    (x : Context) (w : World ε) (hw : w.cancellation.Valid) (hx : w.cancellation.Has x.token)
    (hwork : work.Honest w.cancellation.fresh) {ws : List (World ε)} {v : World ε} {r : Reason}
    (h : Run work considerate (start work layers body x w) ws
      (.done (.error (.cancelled r)), v)) :
    v.err x ≠ none ∧ (r = .cancelled → v.cancellation.isCancelled x.token = true) := by
  obtain ⟨_, _, hp⟩ := run_proper hwork ⟨hw, hx, Nat.le_refl _⟩ hx h
  exact hp.ended r rfl

def untilEnd : Work Unit Context Unit where
  start _ x a := (match a.err x with
    | some r => .done (.error (.cancelled r))
    | none => .pending x, a)
  resume x a := (match a.err x with
    | some r => .done (.error (.cancelled r))
    | none => .pending x, a)
  abandon _ a := a
  ready x a := (a.noticed x).isSome
  timers x := x.timers

lemma untilEnd_fair (since : Nat) (x : Context) (a : Ambient Unit) :
    Work.Fair since x a (untilEnd.start () x a) where
  spares := .refl ..
  ended r hr := by
    simp only [untilEnd] at hr
    split at hr <;> cases hr
    exact Ambient.ended_of_err ‹_›

lemma untilEnd_honest (since : Nat) : untilEnd.Honest since where
  start _ := untilEnd_fair ..
  resume {i x a} hi := by
    have hstate : i = x := by
      have hstart {y z : Context} {a b : Ambient Unit}
          (h : untilEnd.start () y a = (.pending z, b)) : z = y := by
        simp only [untilEnd] at h
        split at h <;> cases h
        rfl
      induction hi with
      | begun _ h => exact hstart h
      | waited _ _ ih => exact ih
      | resumed _ h ih => exact (hstart h).trans ih
    subst hstate
    exact untilEnd_fair ..
  abandon _ := .refl ..

theorem tight_deadline_is_the_callers :
    ({ midTick with cancellation := { fresh := 1 } } : World Unit).cancellation.Valid ∧
    ({ midTick with cancellation := { fresh := 1 } } : World Unit).cancellation.Has tight.token ∧
    untilEnd.Honest 1 ∧
    Run untilEnd considerate
      (start untilEnd [.timeout (.ofMillis 5), .retry threeTimes] () tight
        { midTick with cancellation := { fresh := 1 } })
      [{ pastTick with cancellation := { fresh := 2 } }]
      (.done (.error (.cancelled .deadlineExceeded)),
        { pastTick with cancellation := { fresh := 2 } }) ∧
    ({ pastTick with cancellation := { fresh := 2 } } : World Unit).err tight ≠ none ∧
    (Reason.deadlineExceeded = .cancelled →
      ({ pastTick with cancellation := { fresh := 2 } } : World Unit).cancellation.isCancelled
        tight.token = true) := by
  have hw : ({ fresh := 1 } : Cancellation).Valid := by decide
  have hx : ({ fresh := 1 } : Cancellation).Has tight.token := by decide
  have h : Run untilEnd considerate
      (start untilEnd [.timeout (.ofMillis 5), .retry threeTimes] () tight
        { midTick with cancellation := { fresh := 1 } }) []
      (.pending (.timed tight ⟨⟨1, [0]⟩, some 1200000⟩
        (midTick.now + (Duration.ofMillis 5).nanos) (.ofMillis 5)
        (.attempting threeTimes ⟨⟨1, [0]⟩, some 1200000⟩ 4294967294 [] ()
          (.working ⟨⟨1, [0]⟩, some 1200000⟩))),
        { midTick with cancellation := { fresh := 2 } }) := .begun
  have hlater : ({ midTick with cancellation := { fresh := 2 } } : World Unit).Later
      ({ pastTick with cancellation := { fresh := 2 } } : World Unit).toAmbient :=
    ⟨by decide, Nat.le_refl _, List.Subset.refl _, id⟩
  have h₂ := h.resumed { pastTick with cancellation := { fresh := 2 } } ⟨hlater, nofun⟩
  exact ⟨hw, hx, untilEnd_honest 1, h₂,
    cancelled_call_has_ended_context untilEnd _ () tight _ hw hx (untilEnd_honest 1) h₂⟩

end Call

end Resilience
