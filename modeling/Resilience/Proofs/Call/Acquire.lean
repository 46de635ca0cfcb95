import Resilience.Proofs.Call.Layers

namespace Resilience

namespace Call

variable {β ι ε : Type}

abbrev Meanwhile (ε : Type) := Nat → World ε → World ε → Prop

def Meanwhile.others (meanwhile : Meanwhile ε) : Others β ι ε
  | .queueing _ _ wake _ _, v, u => meanwhile wake v u
  | _, _, _ => True

/-- A caller of the limiter who began in `w` has slept `k` times when he comes to `q` in `v`. -/
inductive Acquire (meanwhile : Meanwhile ε) (id : Nat) (x : Context) (w : World ε) :
    Nat → List (World ε) → Queue → World ε → Prop
  | begun {q : Queue} {v : World ε} : queue id x w = (q, v) → Acquire meanwhile id x w 0 [] q v
  | asleep {k wake : Nat} {us : List (World ε)} {v u : World ε} :
      Acquire meanwhile id x w k us (.wait wake) v → meanwhile wake v u → Unfinished x wake u →
      Acquire meanwhile id x w k (us ++ [u]) (.wait wake) u
  | ended {k wake : Nat} {us : List (World ε)} {v u : World ε} {r : Reason} :
      Acquire meanwhile id x w k us (.wait wake) v → meanwhile wake v u → u.noticed x = some r →
      Acquire meanwhile id x w (k + 1) (us ++ [u]) (.failed (.cancelled r)) u
  | again {k wake : Nat} {us : List (World ε)} {v u v' : World ε} {q : Queue} :
      Acquire meanwhile id x w k us (.wait wake) v → meanwhile wake v u → u.noticed x = none →
      u.clock.passed wake = true → queue id x u = (q, v') →
      Acquire meanwhile id x w (k + 1) (us ++ [u]) q v'

variable {work : Work β ι ε} {rest : List (Layer ε)} {body : β} {meanwhile : Meanwhile ε}
  {id k wake : Nat} {x : Context} {w v u : World ε} {us ws : List (World ε)} {q : Queue}
  {s : Step β ι ε}

lemma Acquire.imp {meanwhile' : Meanwhile ε}
    (himp : ∀ {wake v u}, meanwhile wake v u → meanwhile' wake v u)
    (h : Acquire meanwhile id x w k us q v) : Acquire meanwhile' id x w k us q v := by
  induction h with
  | begun hq => exact .begun hq
  | asleep _ hm hu ih => exact .asleep ih (himp hm) hu
  | ended _ hm hn ih => exact .ended ih (himp hm) hn
  | again _ hm hn hw hq ih => exact .again ih (himp hm) hn hw hq

def proceed (work : Work β ι ε) (id : Nat) (x : Context) (rest : List (Layer ε)) (body : β) :
    Queue × World ε → Step β ι ε
  | (.served, v) => start work rest body x v
  | (.failed e, v) => (.done (.error e), v)
  | (.wait wake, v) => (.pending (.queueing id x wake rest body), v)

lemma start_limiter : start work (.limiter id :: rest) body x w =
    proceed work id x rest body (queue id x w) := by
  rw [start]
  rcases queue id x w with ⟨_ | _ | _, v⟩ <;> rfl

lemma Acquire.run (h : Acquire meanwhile id x w k us q v) :
    Run work meanwhile.others (start work (.limiter id :: rest) body x w) us
      (proceed work id x rest body (q, v)) := by
  induction h with
  | begun hq =>
    rw [start_limiter, hq]
    exact .begun
  | asleep _ hm hu ih =>
    have hnext := ih.resumed _ hm
    rwa [resume_queueing_wait (repause_eq_wait.mpr ⟨hu.1, hu.2, rfl⟩)] at hnext
  | ended _ hm hn ih =>
    have hnext := ih.resumed _ hm
    rwa [resume_queueing_ended (repause_eq_ended.mpr hn)] at hnext
  | again _ hm hn hw hq ih =>
    have hnext := ih.resumed _ hm
    rw [← hq, ← start_limiter]
    rwa [resume_queueing_elapsed (repause_eq_elapsed.mpr ⟨hn, hw⟩)] at hnext

lemma Acquire.resumed (ha : Acquire meanwhile id x w k us (.wait wake) v)
    (hm : meanwhile wake v u) :
    ∃ k' q v', Acquire meanwhile id x w k' (us ++ [u]) q v' ∧
      resume work (.queueing id x wake rest body) u = proceed work id x rest body (q, v') := by
  cases hp : repause x wake u.toAmbient with
  | ended r => exact ⟨_, _, _, .ended ha hm (repause_eq_ended.mp hp), resume_queueing_ended hp⟩
  | wait wake' =>
    obtain ⟨hn, hw, _⟩ := repause_eq_wait.mp hp
    exact ⟨_, _, _, .asleep ha hm ⟨hn, hw⟩, resume_queueing_wait hp⟩
  | elapsed =>
    obtain ⟨hn, hw⟩ := repause_eq_elapsed.mp hp
    rcases hq : queue id x u with ⟨q, v'⟩
    refine ⟨_, _, _, .again ha hm hn hw hq, ?_⟩
    rw [resume_queueing_elapsed hp, start_limiter, hq]

theorem run_limited_iff :
    Run work meanwhile.others (start work (.limiter id :: rest) body x w) ws s ↔
      ∃ k us us' q v, ws = us ++ us' ∧ Acquire meanwhile id x w k us q v ∧
        Run work meanwhile.others (proceed work id x rest body (q, v)) us' s ∧
        (us' = [] ∨ q = .served) := by
  constructor
  · intro h
    induction h with
    | begun =>
      refine ⟨0, [], [], _, _, rfl, .begun rfl, ?_, .inl rfl⟩
      rw [start_limiter]
      exact .begun
    | @resumed ws c v' _ u hothers ih =>
      obtain ⟨k, us, us', q, v, rfl, ha, hr, hlast⟩ := ih
      cases q with
      | served =>
        exact ⟨k, us, us' ++ [u], .served, v, by simp, ha, hr.resumed u hothers, .inr rfl⟩
      | failed e =>
        obtain rfl := hlast.resolve_right (by simp)
        cases hr.eq_of_nil
      | wait wake =>
        obtain rfl := hlast.resolve_right (by simp)
        cases hr.eq_of_nil
        obtain ⟨k', q, v', ha', hnext⟩ := ha.resumed hothers
        refine ⟨k', us ++ [u], [], q, v', by simp, ha', ?_, .inl rfl⟩
        rw [hnext]
        exact .begun
  · rintro ⟨k, us, us', q, v, rfl, ha, hr, _⟩
    exact ha.run.append hr

lemma err_of_served (h : queue id x w = (.served, v)) : v.err x = none := by
  cases he : w.err x with
  | some r =>
    rw [queue, he] at h
    cases h
  | none =>
    rw [queue, he] at h
    rcases hr : w.request id with ⟨_ | d | d, u⟩ <;> rw [hr] at h <;> cases h
    have hsame : v.toAmbient = w.toAmbient := congrArg (·.2.toAmbient) hr.symm
    rw [hsame]
    exact he

lemma Acquire.err (h : Acquire meanwhile id x w k us .served v) : v.err x = none := by
  generalize hq : Queue.served = q at h
  cases h with
  | begun h | again _ _ _ _ h =>
    subst hq
    exact err_of_served h
  | _ => cases hq

end Call

end Resilience
