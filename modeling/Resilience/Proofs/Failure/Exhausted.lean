import Mathlib.Data.List.Infix
import Resilience.Failure

/-! Used up retries inside one another. A failure is its root cause under one layer for each time
that retries were used up. The counts of attempts on these layers, from the outside in, decide what
the failure says and which failures are below it, down to the root cause. -/

namespace Resilience

namespace Failure

/-- A failure under layers of used up retries, given by their attempts, the outermost first. -/
def layered (base : Failure) (attempts : List Nat) : Failure := attempts.foldr exhausted base

def layerText (attempts : Nat) : String :=
  "Maximum retry attempts (" ++ toString attempts ++ ") exceeded. Last error: "

def IsExhausted (f : Failure) : Prop := ∃ attempts last, f = exhausted attempts last

lemma unwrap_eq_rootCause (f : Failure) : f.unwrap = f.rootCause := by
  induction f with
  | exhausted attempts last ih => exact ih
  | _ => rfl

lemma rootCause_not_isExhausted (f : Failure) : ¬ f.rootCause.IsExhausted := by
  induction f with
  | exhausted attempts last ih => exact ih
  | _ =>
    rintro ⟨attempts, last, h⟩
    cases h

lemma rootCause_eq_self {f : Failure} (h : ¬ f.IsExhausted) : f.rootCause = f := by
  cases f with
  | exhausted attempts last => exact (h ⟨attempts, last, rfl⟩).elim
  | _ => rfl

lemma exists_layered (f : Failure) : ∃ attempts, f = f.rootCause.layered attempts := by
  induction f with
  | exhausted attempts last ih =>
    obtain ⟨inner, h⟩ := ih
    exact ⟨attempts :: inner, congrArg (exhausted attempts) h⟩
  | _ => exact ⟨[], rfl⟩

lemma message_layered (base : Failure) (attempts : List Nat) :
    (base.layered attempts).message =
      String.join (attempts.map layerText) ++ base.message := by
  induction attempts with
  | nil => simp [layered]
  | cons n inner ih =>
    have hlayer : (base.layered (n :: inner)).message =
        layerText n ++ (base.layered inner).message := rfl
    rw [hlayer, ih, List.map_cons, String.join_cons, String.append_assoc]

lemma causes_layered (base : Failure) (attempts : List Nat) :
    (base.layered attempts).causes =
      attempts.tails.tail.map (fun inner => .failure (base.layered inner)) ++ base.causes := by
  induction attempts with
  | nil => simp [layered]
  | cons n inner ih =>
    have hcause : (Cause.failure (base.layered (n :: inner))).cause? =
        some (.failure (base.layered inner)) := rfl
    rw [causes, Cause.below_of_cause? hcause, ← causes, ih, List.tails_cons, List.tail_cons]
    -- The list of the tails begins with the whole list, whose failure is the cause just met.
    cases inner <;> simp

/-- Both ways of unwrapping come to the failure under all layers, which no longer is one. The tails
of the counts are what is left of the layers below each of them. -/
theorem exhausted_layers_come_off (f : Failure) :
    f.unwrap = f.rootCause ∧ ¬ f.rootCause.IsExhausted ∧
    f.rootCause.rootCause = f.rootCause ∧ f.unwrap.unwrap = f.unwrap ∧
    ∃ attempts : List Nat, f = f.rootCause.layered attempts ∧
      f.causes = attempts.tails.tail.map (fun inner => .failure (f.rootCause.layered inner)) ++
        f.rootCause.causes ∧
      f.message = String.join (attempts.map layerText) ++ f.rootCause.message := by
  have hroot : f.rootCause.rootCause = f.rootCause :=
    rootCause_eq_self (rootCause_not_isExhausted f)
  refine ⟨unwrap_eq_rootCause f, rootCause_not_isExhausted f, hroot, ?_, ?_⟩
  · rw [unwrap_eq_rootCause f, unwrap_eq_rootCause f.rootCause, hroot]
  · obtain ⟨attempts, h⟩ := exists_layered f
    have hcauses := causes_layered f.rootCause attempts
    have hmessage := message_layered f.rootCause attempts
    rw [← h] at hcauses hmessage
    exact ⟨attempts, h, hcauses, hmessage⟩

example : (layered (.failed ⟨"refused", ["offline"]⟩) [3, 2]).sources =
    ["Maximum retry attempts (2) exceeded. Last error: refused", "refused", "offline"] := by
  decide +kernel

end Failure

end Resilience
