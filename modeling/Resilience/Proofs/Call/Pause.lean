import Resilience.Proofs.Call.Run

namespace Resilience

namespace Context

variable {x : Context} {k : Clock} {c : Cancellation}

lemma noticed_eq_none_of_err (h : x.err k c = none) : x.noticed k c = none := by
  cases hn : x.noticed k c with
  | none => rfl
  | some r => exact absurd (err_of_noticed hn) (by simp [h])

lemma noticed_eq_none_iff : x.noticed k c = none ↔
    c.isCancelled x.token = false ∧ ∀ d ∈ x.deadline, k.passed d = false := by
  unfold noticed
  cases hc : c.isCancelled x.token with
  | true => simp
  | false => cases x.deadline <;> simp

end Context

namespace Call

variable {ε : Type} {x : Context} {d : Duration} {wake : Nat} {a : Ambient ε} {r : Reason}

lemma repause_eq_elapsed : repause x wake a = .elapsed ↔
    a.noticed x = none ∧ a.clock.passed wake = true := by
  unfold repause
  cases a.noticed x <;> simp

lemma repause_eq_ended : repause x wake a = .ended r ↔ a.noticed x = some r := by
  unfold repause
  cases a.noticed x with
  | some r' => simp
  | none => cases a.clock.passed wake <;> simp

lemma repause_eq_wait {wake' : Nat} : repause x wake a = .wait wake' ↔
    a.noticed x = none ∧ a.clock.passed wake = false ∧ wake' = wake := by
  unfold repause
  cases a.noticed x with
  | some r' => simp
  | none => cases a.clock.passed wake <;> simp [eq_comm]

lemma pause_eq_elapsed : pause x d a = .elapsed ↔ a.err x = none ∧ d.isZero = true := by
  unfold pause
  cases a.err x with
  | some r' => simp
  | none => cases d.isZero <;> simp

lemma pause_eq_ended : pause x d a = .ended r ↔ a.err x = some r := by
  unfold pause
  cases a.err x with
  | some r' => simp
  | none => cases d.isZero <;> simp

lemma pause_eq_wait : pause x d a = .wait wake ↔
    a.err x = none ∧ d.isZero = false ∧ wake = a.clock.wake d := by
  unfold pause
  cases a.err x with
  | some r' => simp
  | none => cases d.isZero <;> simp [eq_comm]

def Unfinished (x : Context) (wake : Nat) (w : World ε) : Prop :=
  w.noticed x = none ∧ w.clock.passed wake = false

/-- A wait of length `d` that was begun in `w` and looked at in the listed worlds is over in the
last of them. -/
inductive Slept (x : Context) (d : Duration) (w : World ε) : List (World ε) → World ε → Prop
  | atOnce : w.err x = none → d.isZero = true → Slept x d w [] w
  | later {us : List (World ε)} {v : World ε} : w.err x = none → d.isZero = false →
      (∀ u ∈ us, Unfinished x (w.clock.wake d) u) → v.noticed x = none →
      v.clock.passed (w.clock.wake d) = true → Slept x d w (us ++ [v]) v

inductive Interrupted (x : Context) (d : Duration) (w : World ε) :
    List (World ε) → World ε → Reason → Prop
  | atOnce {r : Reason} : w.err x = some r → Interrupted x d w [] w r
  | later {us : List (World ε)} {v : World ε} {r : Reason} : w.err x = none → d.isZero = false →
      (∀ u ∈ us, Unfinished x (w.clock.wake d) u) → v.noticed x = some r →
      Interrupted x d w (us ++ [v]) v r

variable {w v : World ε} {us : List (World ε)}

lemma Slept.noticed (h : Slept x d w us v) : v.noticed x = none := by
  cases h with
  | atOnce he _ => exact Context.noticed_eq_none_of_err he
  | later _ _ _ hn _ => exact hn

end Call

end Resilience
