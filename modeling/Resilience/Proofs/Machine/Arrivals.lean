import Resilience.Proofs.Machine.Join

namespace Resilience

namespace Machine

variable {β ι ε : Type}

def places (is : List Nat) : List (Nat × Nat) := is.mapIdx fun place i => (place, i)

lemma mem_places {is : List Nat} {p : Nat × Nat} : p ∈ places is ↔ is[p.1]? = some p.2 := by
  obtain ⟨k, i⟩ := p
  simp only [places, List.mem_mapIdx, Prod.mk.injEq]
  constructor
  · rintro ⟨k', hk', rfl, rfl⟩
    exact List.getElem?_eq_getElem hk'
  · intro h
    obtain ⟨hk, hget⟩ := List.getElem?_eq_some_iff.1 h
    exact ⟨k, hk, rfl, hget⟩

lemma map_fst_places (is : List Nat) : (places is).map (·.1) = List.range is.length := by
  apply List.ext_getElem (by simp [places])
  intro k _ _
  simp [places]

structure Gathering (work : Work β ι ε) (m : Machine β ι ε) (is : List Nat)
    (reports : List (Event β ι ε) → Nat → Option Outcome → Prop) (es : List (Event β ι ε))
    (pending : List (Nat × Nat)) (arrived : List (Nat × Nat × Outcome)) : Prop where
  sublist : pending.Sublist (places is)
  perm : (arrived.map (·.1) ++ pending.map (·.1)).Perm (List.range is.length)
  reads : ∀ a ∈ arrived, ∃ i, is[a.1]? = some i ∧ Reads reports es i a.2.2
  unread : ∀ p ∈ pending, ((m.acts work es).job p.2).delivery ≠ .taken

section

variable {work : Work β ι ε} {m : Machine β ι ε} {is : List Nat}
  {reports : List (Event β ι ε) → Nat → Option Outcome → Prop} {es fs : List (Event β ι ε)}
  {pending here rest : List (Nat × Nat)} {arrived : List (Nat × Nat × Outcome)}
  {out : Looked β ι ε}

lemma Gathering.mem (h : Gathering work m is reports es pending arrived) {p : Nat × Nat}
    (hp : p ∈ pending) : is[p.1]? = some p.2 :=
  mem_places.1 (h.sublist.subset hp)

lemma Gathering.start (hnew : ∀ i ∈ is, ((m.acts work es).job i).delivery ≠ .taken) :
    Gathering work m is reports es (places is) [] where
  sublist := List.Sublist.refl _
  perm := by
    rw [map_fst_places]
    exact .refl _
  reads := by simp
  unread p hp := hnew p.2 (List.mem_of_getElem? (mem_places.1 hp))

lemma Gathering.acts (h : Gathering work m is reports es pending arrived)
    (hacc : Accounts work m is reports) (hfs : ∀ e ∈ fs, ∀ i ∈ is, i ∉ e.takes) :
    Gathering work m is reports (es ++ fs) pending arrived where
  sublist := h.sublist
  perm := h.perm
  reads a ha := by
    obtain ⟨i, hi, hr⟩ := h.reads a ha
    exact ⟨i, hi, hacc.reads_append (List.mem_of_getElem? hi) hr fs⟩
  unread p hp := by
    have hmem := List.mem_of_getElem? (h.mem hp)
    have hi := Nat.lt_of_lt_of_le (hacc.lt_size p.2 hmem) (size_le_acts work m es)
    rw [acts_append]
    exact not_taken_acts hi (fun e he => hfs e he p.2 hmem) (h.unread p hp)

lemma Gathering.nodup (h : Gathering work m is reports es pending arrived)
    (hacc : Accounts work m is reports) : (pending.map (·.2)).Nodup := by
  have hsub := h.sublist.map (·.2)
  rw [places, map_snd_mapIdx] at hsub
  exact hacc.nodup.sublist hsub

lemma perm_takings (M : Machine β ι ε) (arrived : List (Nat × Nat × Outcome))
    (hperm : (here ++ rest).Perm pending) :
    ((arrived ++ M.takings here).map (·.1) ++ rest.map (·.1)).Perm
      (arrived.map (·.1) ++ pending.map (·.1)) := by
  have hplaces : (M.takings here).map (·.1) = here.map (·.1) := by
    rw [takings, List.map_map]
    rfl
  rw [List.map_append, hplaces, List.append_assoc, ← List.map_append]
  exact (hperm.map (·.1)).append_left _

lemma Gathering.reads_takings (h : Gathering work m is reports es pending arrived)
    (hacc : Accounts work m is reports) (hsub : here ⊆ pending)
    (hresult : ∀ p ∈ here, ∃ r, (m.acts work es).resultAt p.2 = some r) :
    ∀ a ∈ (m.acts work es).takings here, ∃ i, is[a.1]? = some i ∧ Reads reports es i a.2.2 := by
  intro a ha
  obtain ⟨p, hp, rfl⟩ := List.mem_map.1 ha
  obtain ⟨r, hr⟩ := hresult p hp
  have hi := h.mem (hsub hp)
  refine ⟨p.2, hi, ?_⟩
  simp only [hr, Option.getD_some]
  exact hacc.reads_resultAt (List.mem_of_getElem? hi) hr

lemma Gathering.look (h : Gathering work m is reports es pending arrived)
    (hacc : Accounts work m is reports) (hperm : (here ++ rest).Perm pending)
    (hrest : rest.Sublist pending) (hhas : ∀ p ∈ here, (m.acts work es).hasResult p.2 = true)
    (hnot : ∀ p ∈ rest, (m.acts work es).hasResult p.2 = false) {e : Event β ι ε}
    (he : (m.acts work es).act work e = (Wait.lookEach (m.acts work es) rest here arrived).2) :
    (∃ as, (Wait.lookEach (m.acts work es) rest here arrived).1 = .inr (.arrivals as) ∧
      (as.map (·.1)).Perm (List.range is.length) ∧
      ∀ a ∈ as, ∃ i, is[a.1]? = some i ∧ Reads reports (es ++ [e]) i a.2.2) ∨
    (∃ as, (Wait.lookEach (m.acts work es) rest here arrived).1 = .inl (.each rest as) ∧
      Gathering work m is reports (es ++ [e]) rest as ∧ rest ≠ [] ∧
      ∀ p ∈ rest, ((m.acts work (es ++ [e])).job p.2).delivery = .awaited) := by
  have hsub : here ⊆ pending := fun p hp => hperm.subset (List.mem_append_left _ hp)
  have hnodup : (here.map (·.2)).Nodup := by
    have hall := (hperm.map (·.2)).nodup_iff.2 (h.nodup hacc)
    rw [List.map_append] at hall
    exact (List.nodup_append.1 hall).1
  have hresult : ∀ p ∈ here, ∃ r, (m.acts work es).resultAt p.2 = some r := fun p hp =>
    isSome_resultAt (h.unread p (hsub hp)) (hhas p hp)
  have hlook := lookEach_eq rest arrived hnodup hresult
  have hnext : m.acts work (es ++ [e]) = (Wait.collect (m.acts work es) here arrived).2 := by
    rw [acts_append]
    exact he.trans (congrArg (·.2) hlook)
  have hplaces := (perm_takings (m.acts work es) arrived hperm).trans h.perm
  have hreads : ∀ a ∈ arrived ++ (m.acts work es).takings here, ∃ i, is[a.1]? = some i ∧
      Reads reports (es ++ [e]) i a.2.2 := by
    intro a ha
    obtain ⟨i, hi, hr⟩ := List.forall_mem_append.2
      ⟨h.reads, h.reads_takings hacc hsub hresult⟩ a ha
    exact ⟨i, hi, hacc.reads_append (List.mem_of_getElem? hi) hr _⟩
  have hawaited : ∀ p ∈ rest, ((m.acts work (es ++ [e])).job p.2).delivery = .awaited := by
    have hspent := (Taking.collect (m.acts work es) (List.Subset.refl (here.map (·.2)))
      arrived).toSpent
    intro p hp
    rw [hnext]
    exact hspent.awaited (hasResult_eq_false (hnot p hp))
  rw [hlook]
  cases rest with
  | nil =>
    left
    refine ⟨_, rfl, ?_, hreads⟩
    simpa using hplaces
  | cons p rest =>
    right
    refine ⟨_, rfl, ⟨hrest.trans h.sublist, hplaces, hreads, ?_⟩, nofun, hawaited⟩
    intro q hq
    exact (hawaited q hq).symm ▸ nofun

lemma Joining.unordered (hacc : Accounts work m is reports)
    (hj : Joining work m .unordered is es out) :
    (∃ as, out.1 = .inr (.arrivals as) ∧ (as.map (·.1)).Perm (List.range is.length) ∧
      ∀ a ∈ as, ∃ i, is[a.1]? = some i ∧ Reads reports es i a.2.2) ∨
    (∃ pending arrived, out.1 = .inl (.each pending arrived) ∧
      Gathering work m is reports es pending arrived ∧ pending ≠ [] ∧
      ∀ p ∈ pending, ((m.acts work es).job p.2).delivery = .awaited) := by
  have hsplit (M : Machine β ι ε) (ps : List (Nat × Nat)) :
      (ps.filter (fun p => M.hasResult p.2) ++ ps.filter fun p => !M.hasResult p.2).Perm ps :=
    List.filter_append_perm _ _
  induction hj with
  | @begun es hnew =>
    rcases (Gathering.start hnew).look (e := .joinUnordered is) hacc
      (hsplit (m.acts work es) (places is)) List.filter_sublist (by simp) (by simp) rfl
      with hdone | ⟨as, has, hgo, hwait⟩
    · exact .inl hdone
    · exact .inr ⟨_, as, has, hgo, hwait⟩
  | @looked es fs s m' hj hfs ih =>
    have hm' : m' = m.acts work es := hj.acts
    rcases ih with ⟨as, ⟨⟩, -⟩ | ⟨pending, arrived, hs, hgathering, -⟩
    cases hs
    rw [hm', ← acts_append]
    have hsorted := (List.mergeSort_perm (pending.filter fun p =>
      (m.acts work (es ++ fs)).hasResult p.2) fun a b =>
        Wait.arrival (m.acts work (es ++ fs)) a.2 ≤ Wait.arrival (m.acts work (es ++ fs)) b.2)
    rcases (hgathering.acts hacc hfs).look (e := .look (.each pending arrived)) hacc
      ((hsorted.append_right _).trans (hsplit (m.acts work (es ++ fs)) pending))
      List.filter_sublist (fun p hp => (List.mem_filter.1 (hsorted.subset hp)).2) (by simp) rfl
      with hdone | ⟨as, has, hgo, hwait⟩
    · exact .inl hdone
    · exact .inr ⟨_, as, has, hgo, hwait⟩

end

end Machine

end Resilience
