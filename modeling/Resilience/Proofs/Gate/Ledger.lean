import Mathlib.Data.List.Nodup
import Mathlib.Data.List.Perm.Subperm
import Mathlib.Tactic.Lemma
import Resilience.Gate

namespace Resilience

inductive Standing where
  | idle
  | queued
  | holding
deriving DecidableEq

/-- The books of a gate with `c` permits and parties that go by their places in `L`. -/
structure Ledger (c : Nat) (L : List Standing) (G : Gate) : Prop where
  conserved : G.free + L.count .holding + G.handed.length = c
  nodup : (G.waiting ++ G.handed).Nodup
  mem_iff : ∀ k, k ∈ G.waiting ++ G.handed ↔ L[k]? = some .queued

lemma Ledger.start {c n : Nat} : Ledger c (List.replicate n .idle) { free := c } where
  conserved := by simp [List.count_replicate]
  nodup := List.nodup_nil
  mem_iff k := by simp [List.getElem?_replicate]

lemma count_set_standing {L : List Standing} {i : Nat} {s : Standing} (hi : L[i]? = some s)
    (t : Standing) :
    (L.set i t).count .holding + (if s = .holding then 1 else 0) =
      L.count .holding + (if t = .holding then 1 else 0) := by
  obtain ⟨hlt, hget⟩ := List.getElem?_eq_some_iff.1 hi
  have hpos : (if s = .holding then 1 else 0) ≤ L.count .holding := by
    split
    · rename_i hs
      exact List.count_pos_iff.2 (hs ▸ hget ▸ List.getElem_mem hlt)
    · exact Nat.zero_le _
  rw [List.count_set hlt, hget]
  simp only [beq_iff_eq]
  omega

lemma getElem?_set_standing {L : List Standing} {i : Nat} {s : Standing} (hi : L[i]? = some s)
    (t : Standing) (k : Nat) : (L.set i t)[k]? = if k = i then some t else L[k]? := by
  obtain ⟨hlt, -⟩ := List.getElem?_eq_some_iff.1 hi
  rw [List.getElem?_set]
  by_cases hk : i = k
  · simp [← hk, hlt]
  · simp [hk, Ne.symm hk]

namespace Ledger

variable {c i : Nat} {L : List Standing} {G : Gate}

lemma count_le (h : Ledger c L G) : L.count .holding ≤ c := by
  have := h.conserved
  omega

lemma set_self (h : Ledger c L G) {s : Standing} (hi : L[i]? = some s) :
    Ledger c (L.set i s) G := by
  obtain ⟨hlt, rfl⟩ := List.getElem?_eq_some_iff.1 hi
  rwa [List.set_getElem_self]

lemma join (h : Ledger c L G) : Ledger c (L ++ [.idle]) G where
  conserved := by simpa using h.conserved
  nodup := h.nodup
  mem_iff k := by
    rw [h.mem_iff, List.getElem?_append]
    split
    · rfl
    · rename_i hk
      have hnone : L[k]? = none := List.getElem?_eq_none (Nat.le_of_not_lt hk)
      rw [hnone, List.getElem?_singleton]
      split <;> simp

lemma take (h : Ledger c L G) (hi : L[i]? = some .idle) (hfree : 0 < G.free) :
    Ledger c (L.set i .holding) { G with free := G.free - 1 } where
  conserved := by
    have hcount := count_set_standing hi .holding
    have := h.conserved
    simp at hcount ⊢
    omega
  nodup := h.nodup
  mem_iff k := by
    rw [getElem?_set_standing hi, h.mem_iff]
    split
    · rename_i hk
      simp [hk, hi]
    · rfl

lemma wait (h : Ledger c L G) (hi : L[i]? = some .idle) :
    Ledger c (L.set i .queued) { G with waiting := G.waiting ++ [i] } where
  conserved := by
    have hcount := count_set_standing hi .queued
    have := h.conserved
    simp at hcount ⊢
    omega
  nodup := by
    have hnot : i ∉ G.waiting ++ G.handed := by
      rw [h.mem_iff, hi]
      simp
    have hperm : (G.waiting ++ [i] ++ G.handed).Perm (i :: (G.waiting ++ G.handed)) := by
      rw [List.append_assoc]
      exact List.perm_middle
    exact hperm.nodup_iff.2 (List.nodup_cons.2 ⟨hnot, h.nodup⟩)
  mem_iff k := by
    rw [getElem?_set_standing hi]
    have hk := h.mem_iff k
    split
    · rename_i hki
      simp [hki]
    · rename_i hki
      rw [← hk]
      simp [hki]

lemma release (h : Ledger c L G) : Ledger (c + 1) L G.release := by
  have hconserved := h.conserved
  unfold Gate.release
  split
  · rename_i hw
    refine ⟨?_, ?_, ?_⟩
    · simp only
      omega
    · simpa [hw] using h.nodup
    · intro k
      simpa [hw] using h.mem_iff k
  · rename_i who rest hw
    have hperm : (rest ++ (G.handed ++ [who])).Perm (G.waiting ++ G.handed) := by
      rw [hw, ← List.append_assoc]
      exact List.perm_append_singleton who _
    refine ⟨?_, ?_, ?_⟩
    · simp only [List.length_append, List.length_singleton]
      omega
    · exact hperm.nodup_iff.2 h.nodup
    · intro k
      exact hperm.mem_iff.trans (h.mem_iff k)

lemma surrender (h : Ledger c L G) (hi : L[i]? = some .holding) :
    ∃ d, c = d + 1 ∧ Ledger d (L.set i .idle) G := by
  have hcount := count_set_standing hi .idle
  have hconserved := h.conserved
  simp at hcount
  refine ⟨c - 1, by omega, ⟨by omega, h.nodup, ?_⟩⟩
  intro k
  rw [getElem?_set_standing hi, h.mem_iff]
  split
  · rename_i hk
    simp [hk, hi]
  · rfl

lemma finish (h : Ledger c L G) (hi : L[i]? = some .holding) :
    Ledger c (L.set i .idle) G.release := by
  obtain ⟨d, rfl, hd⟩ := h.surrender hi
  exact hd.release

lemma mem_accept (h : Ledger c L G) (hmem : i ∈ G.handed) (k : Nat) :
    k ∈ (G.accept i).waiting ++ (G.accept i).handed ↔ k ≠ i ∧ k ∈ G.waiting ++ G.handed := by
  have hdisjoint := List.disjoint_of_nodup_append h.nodup
  have herase := (List.Nodup.of_append_right h.nodup).mem_erase_iff (a := k) (b := i)
  have hwaiting : k ∈ G.waiting → k ≠ i := by
    rintro hk rfl
    exact hdisjoint hk hmem
  simp only [Gate.accept, List.mem_append, herase]
  tauto

lemma accept (h : Ledger c L G) (hi : L[i]? = some .queued) (hmem : i ∈ G.handed) :
    Ledger c (L.set i .holding) (G.accept i) where
  conserved := by
    have hcount := count_set_standing hi .holding
    have hlength := List.length_erase_of_mem hmem
    have hpos := List.length_pos_of_mem hmem
    have := h.conserved
    simp [Gate.accept] at hcount ⊢
    omega
  nodup := by
    have hsub : ((G.accept i).waiting ++ (G.accept i).handed).Sublist (G.waiting ++ G.handed) :=
      List.Sublist.append_left List.erase_sublist _
    exact h.nodup.sublist hsub
  mem_iff k := by
    rw [mem_accept h hmem, getElem?_set_standing hi, h.mem_iff]
    split <;> simp_all

lemma leave (h : Ledger c L G) (hi : L[i]? = some .queued) :
    Ledger c (L.set i .idle) (G.leave i) := by
  unfold Gate.leave
  split
  · rename_i hmem
    have haccept := h.accept hi (List.contains_iff_mem.1 hmem)
    have hholds : (L.set i .holding)[i]? = some .holding := by
      rw [getElem?_set_standing hi, if_pos rfl]
    have hfinish := haccept.finish hholds
    rwa [List.set_set] at hfinish
  · rename_i hmem
    have hnot : i ∉ G.handed := fun h => hmem (List.contains_iff_mem.2 h)
    refine ⟨?_, ?_, ?_⟩
    · have hcount := count_set_standing hi .idle
      have := h.conserved
      simp at hcount ⊢
      omega
    · exact h.nodup.sublist (List.Sublist.append_right List.erase_sublist _)
    · intro k
      rw [getElem?_set_standing hi]
      have hk := h.mem_iff k
      have hwaiting := (List.Nodup.of_append_left h.nodup).mem_erase_iff (a := k) (b := i)
      simp only [List.mem_append, hwaiting] at hk ⊢
      split
      · rename_i hki
        simp [hki, hnot]
      · rename_i hki
        rw [← hk]
        simp [hki]

lemma free_eq (h : Ledger c L G) (hidle : ∀ s ∈ L, s = .idle) : G.free = c := by
  have hcount : L.count .holding = 0 := by
    rw [List.count_eq_zero]
    intro hmem
    cases hidle _ hmem
  have hhanded : G.handed = [] := by
    rw [List.eq_nil_iff_forall_not_mem]
    intro k hk
    have hqueued := (h.mem_iff k).1 (List.mem_append_right _ hk)
    cases hidle _ (List.mem_of_getElem? hqueued)
  have := h.conserved
  simp only [hcount, hhanded, List.length_nil] at this
  omega

end Ledger

end Resilience
