import Mathlib.Data.String.Basic
import Mathlib.Tactic.Lemma
import Resilience.Summary

namespace Resilience

def Outcome.succeeds : Outcome → Bool
  | .ok _ => true
  | .error _ => false

def Outcome.failsBy (p : String → Bool) : Outcome → Bool
  | .ok _ => false
  | .error f => p f.kind

namespace Summary

def failures (s : Summary) (kind : String) : Nat := (s.failed.lookup kind).getD 0

def sum (counts : List (String × Nat)) : Nat := counts.foldr (fun k n => k.2 + n) 0

def among (s : Summary) (p : String → Bool) : Nat := sum (s.failed.filter (p ·.1))

def Sorted (counts : List (String × Nat)) : Prop := counts.Pairwise fun a b => a.1 < b.1

variable {kind : String} {counts : List (String × Nat)} {p : String → Bool}

@[simp] lemma sum_nil : sum [] = 0 := by simp [sum]

@[simp] lemma sum_cons (entry : String × Nat) (counts : List (String × Nat)) :
    sum (entry :: counts) = entry.2 + sum counts := by simp [sum]

lemma sum_tally (kind : String) (counts : List (String × Nat)) (p : String → Bool) :
    sum ((tally kind counts).filter (p ·.1)) =
      sum (counts.filter (p ·.1)) + if p kind then 1 else 0 := by
  induction counts with
  | nil => cases hp : p kind <;> simp [tally, hp]
  | cons entry rest ih =>
    obtain ⟨k, n⟩ := entry
    unfold tally
    split
    · rename_i hk
      subst hk
      cases hp : p kind <;> simp [hp]
      omega
    · split
      · cases hp : p kind <;> simp [hp]
        omega
      · cases hp : p k <;> simp [hp, ih]
        omega

lemma eq_or_mem_of_mem_tally {entry : String × Nat} (h : entry ∈ tally kind counts) :
    entry.1 = kind ∨ ∃ e ∈ counts, e.1 = entry.1 := by
  induction counts with
  | nil =>
    obtain rfl := List.mem_singleton.mp h
    exact .inl rfl
  | cons e rest ih =>
    obtain ⟨k, n⟩ := e
    unfold tally at h
    split at h
    · rename_i hk
      rcases List.mem_cons.mp h with rfl | h
      · exact .inl hk.symm
      · exact .inr ⟨entry, List.mem_cons_of_mem _ h, rfl⟩
    · split at h
      · rcases List.mem_cons.mp h with rfl | h
        · exact .inl rfl
        · exact .inr ⟨entry, h, rfl⟩
      · rcases List.mem_cons.mp h with rfl | h
        · exact .inr ⟨(k, n), List.mem_cons_self, rfl⟩
        · rcases ih h with hk | ⟨e, he, hk⟩
          · exact .inl hk
          · exact .inr ⟨e, List.mem_cons_of_mem _ he, hk⟩

lemma Sorted.tally (h : Sorted counts) (kind : String) : Sorted (tally kind counts) := by
  induction counts with
  | nil => exact List.pairwise_singleton ..
  | cons entry rest ih =>
    obtain ⟨k, n⟩ := entry
    obtain ⟨hk, hrest⟩ := List.pairwise_cons.mp h
    unfold Summary.tally
    split
    · exact List.pairwise_cons.mpr ⟨hk, hrest⟩
    · rename_i hne
      split
      · rename_i hlt
        refine List.pairwise_cons.mpr ⟨?_, h⟩
        intro e he
        rcases List.mem_cons.mp he with rfl | he
        · exact hlt
        · exact hlt.trans (hk e he)
      · rename_i hlt
        refine List.pairwise_cons.mpr ⟨?_, ih hrest⟩
        intro e he
        rcases eq_or_mem_of_mem_tally he with he | ⟨e', he', heq⟩
        · rw [he]
          exact lt_of_le_of_ne (not_lt.mp hlt) (Ne.symm hne)
        · exact heq ▸ hk e' he'

/-- Since no name is listed twice, to look it up is to add up all that is listed under it. -/
lemma Sorted.lookup (h : Sorted counts) (kind : String) :
    (counts.lookup kind).getD 0 = sum (counts.filter (·.1 = kind)) := by
  induction counts with
  | nil => rfl
  | cons entry rest ih =>
    obtain ⟨k, n⟩ := entry
    obtain ⟨hk, hrest⟩ := List.pairwise_cons.mp h
    by_cases heq : k = kind
    · subst heq
      have hnone : rest.filter (·.1 = k) = [] := by
        refine List.filter_eq_nil_iff.mpr fun e he => ?_
        simpa using (hk e he).ne'
      simp [hnone]
    · have hne : (kind == k) = false := by simpa using Ne.symm heq
      rw [List.lookup_cons, hne, List.filter_cons_of_neg (by simpa using heq)]
      exact ih hrest

variable {s : Summary}

lemma among_record (s : Summary) (r : Outcome) (p : String → Bool) :
    (s.record r).among p = s.among p + if r.failsBy p then 1 else 0 := by
  cases r with
  | ok _ => rfl
  | error f => exact sum_tally ..

lemma succeeded_record (s : Summary) (r : Outcome) :
    (s.record r).succeeded = s.succeeded + if r.succeeds then 1 else 0 := by
  cases r <;> rfl

lemma sorted_record (h : Sorted s.failed) (r : Outcome) : Sorted (s.record r).failed := by
  cases r with
  | ok _ => exact h
  | error f => exact h.tally _

lemma foldl_record (s : Summary) (rs : List Outcome) :
    (rs.foldl record s).succeeded = s.succeeded + rs.countP Outcome.succeeds ∧
    (∀ p, (rs.foldl record s).among p = s.among p + rs.countP (Outcome.failsBy p)) ∧
    (Sorted s.failed → Sorted (rs.foldl record s).failed) := by
  induction rs generalizing s with
  | nil => exact ⟨rfl, fun _ => rfl, id⟩
  | cons r rs ih =>
    obtain ⟨hsucceeded, hamong, hsorted⟩ := ih (s.record r)
    refine ⟨?_, fun p => ?_, fun h => hsorted (sorted_record h r)⟩
    · rw [List.foldl_cons, hsucceeded, succeeded_record, List.countP_cons]
      omega
    · rw [List.foldl_cons, hamong, among_record, List.countP_cons]
      omega

theorem succeeded_ofOutcomes (rs : List Outcome) :
    (ofOutcomes rs).succeeded = rs.countP Outcome.succeeds := by
  have h := (foldl_record {} rs).1
  rwa [Nat.zero_add] at h

theorem among_ofOutcomes (rs : List Outcome) (p : String → Bool) :
    (ofOutcomes rs).among p = rs.countP (Outcome.failsBy p) := by
  have h := (foldl_record {} rs).2.1 p
  rwa [show among {} p = 0 from rfl, Nat.zero_add] at h

theorem failures_ofOutcomes (rs : List Outcome) (kind : String) :
    (ofOutcomes rs).failures kind = rs.countP (Outcome.failsBy (· = kind)) := by
  have hsorted : Sorted (ofOutcomes rs).failed := (foldl_record {} rs).2.2 .nil
  exact (hsorted.lookup kind).trans (among_ofOutcomes rs (· = kind))

lemma total_eq (s : Summary) : s.total = s.succeeded + s.among fun _ => true := by
  simp [total, among, sum]

theorem total_ofOutcomes (rs : List Outcome) : (ofOutcomes rs).total = rs.length := by
  have hfails (r : Outcome) : r.failsBy (fun _ => true) = decide ¬r.succeeds := by
    cases r <;> rfl
  rw [total_eq, succeeded_ofOutcomes, among_ofOutcomes, funext hfails]
  exact (List.length_eq_countP_add_countP Outcome.succeeds).symm

end Summary

end Resilience
