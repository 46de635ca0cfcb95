import Resilience.Proofs.Registry.Log

namespace Resilience

variable {α φ ρ : Type}

def Entry.produce (make : φ → Store α φ ρ → Made α × Store α φ ρ) (e : Entry α φ)
    (s : Store α φ ρ) : Resolved α φ ρ α :=
  match e.source with
  | .instance a => (.ok a, s)
  | .factory f => s.run make e.capability f

def Missing {β : Type} : Except ResolveError β → Prop
  | .error (.refused (.notFound _)) => True
  | _ => False

def Mismatched {β : Type} : Except ResolveError β → Prop
  | .error (.refused (.typeMismatch ..)) => True
  | _ => False

structure Store.Reads (s : Store α φ ρ) (log : List (Entry α φ)) : Prop where
  resolveAt_eq : ∀ make c i e, (ofCapability c log)[i]? = some e →
    s.resolveAt make c i = e.produce make s
  resolveAt_missing : ∀ make c i,
    Missing (s.resolveAt make c i).1 ↔ (ofCapability c log).length ≤ i
  resolveNamed_missing : ∀ make c n,
    Missing (s.resolveNamed make c n).1 ↔ ¬∃ e ∈ log, e.name = some n
  resolveNamed_mismatched : ∀ make c n,
    Mismatched (s.resolveNamed make c n).1 ↔ ∃ e ∈ log, e.name = some n ∧ e.capability ≠ c
  resolveNamed_eq : ∀ make c n k e, log[k]? = some e → e.name = some n → e.capability = c →
    s.resolveNamed make c n = e.produce make s ∧
      s.resolveNamed make c n = s.resolveAt make c (ofCapability c (log.take k)).length
  names_unique : (namesOf log).Nodup
  count_eq : ∀ c, s.registry.count c = (ofCapability c log).length
  size_eq : s.registry.size = log.length
  containsName_iff : ∀ n, s.registry.containsName n ↔ n ∈ namesOf log
  names_sorted : s.registry.names.Pairwise (· < ·)
  mem_names_iff : ∀ n, n ∈ s.registry.names ↔ n ∈ namesOf log
  /-- Whatever a lookup hands over to be instantiated has the capability asked for. -/
  source_at : ∀ c i r, s.registry.at? c i = .ok r → (r.source? c).isSome
  source_named : ∀ c n r, s.registry.named? c n = .ok r → (r.source? c).isSome
  source_of : ∀ c, ∀ r ∈ s.registry.of c, (r.source? c).isSome

section

variable (make : φ → Store α φ ρ → Made α × Store α φ ρ)

lemma source_ofEntry (e : Entry α φ) :
    (Registration.ofEntry e).source? e.capability = some e.source := by
  simp [Registration.source?, Registration.ofEntry]

lemma instantiate_ofEntry (e : Entry α φ) (s : Store α φ ρ) :
    s.instantiate make e.capability (.ofEntry e) = e.produce make s := by
  unfold Store.instantiate Entry.produce
  rw [source_ofEntry]
  cases e.source <;> rfl

lemma not_missing_produce (e : Entry α φ) (s : Store α φ ρ) : ¬Missing (e.produce make s).1 := by
  unfold Entry.produce
  split
  · exact id
  · unfold Store.run
    split <;> exact id

lemma not_mismatched_produce (e : Entry α φ) (s : Store α φ ρ) :
    ¬Mismatched (e.produce make s).1 := by
  unfold Entry.produce
  split
  · exact id
  · unfold Store.run
    split <;> exact id

end

lemma getElem?_ofCapability {log : List (Entry α φ)} {k : Nat} {e : Entry α φ}
    (he : log[k]? = some e) :
    (ofCapability e.capability log)[(ofCapability e.capability (log.take k)).length]? = some e := by
  obtain ⟨hk, hget⟩ := List.getElem?_eq_some_iff.1 he
  have hsplit : log = log.take k ++ e :: log.drop (k + 1) := by simp [← hget]
  have hof : ofCapability e.capability log =
      ofCapability e.capability (log.take k) ++
        e :: ofCapability e.capability (log.drop (k + 1)) := by
    conv_lhs => rw [hsplit, ofCapability_append]
    simp [ofCapability]
  rw [hof]
  simp

namespace Registry.Shows

variable {g : Registry α φ} {log : List (Entry α φ)} (h : Shows g log)
include h

lemma at_eq_ok {c : String} {i : Nat} {e : Entry α φ} (he : (ofCapability c log)[i]? = some e) :
    g.at? c i = .ok (.ofEntry e) := by
  simp [at?, h.of_eq, he]

lemma at_eq_error {c : String} {i : Nat} (hi : (ofCapability c log).length ≤ i) :
    g.at? c i = .error (.notFound (indexed c i)) := by
  simp [at?, h.of_eq, hi]

lemma named_eq_found {c n : String} {e : Entry α φ} (he : e ∈ log) (hn : e.name = some n) :
    g.named? c n = if e.capability = c then .ok (.ofEntry e)
      else .error (.typeMismatch n c e.capability) := by
  have hfind := find_name_eq h.nodup he hn
  simp [named?, h.named_eq, hfind, Registration.ofEntry]

lemma named_eq_missing {c n : String} (hn : ¬∃ e ∈ log, e.name = some n) :
    g.named? c n = .error (.notFound ("'" ++ n ++ "'")) := by
  have hfind : log.find? (·.name = some n) = none := by
    simpa [List.find?_eq_none] using hn
  simp [named?, h.named_eq, hfind]

lemma containsName_iff (n : String) : g.containsName n ↔ n ∈ namesOf log := by
  rw [containsName, Std.TreeMap.contains_eq_isSome_getElem?, h.named_eq, mem_namesOf]
  simp

lemma isSome_source {c : String} {r : Registration α φ} (hr : r ∈ g.of c) :
    (r.source? c).isSome := by
  rw [h.of_eq] at hr
  obtain ⟨e, he, rfl⟩ := List.mem_map.1 hr
  have hc : e.capability = c := by simpa using (List.mem_filter.1 he).2
  rw [← hc, source_ofEntry]
  rfl

end Registry.Shows

namespace Store

variable {s : Store α φ ρ} {log : List (Entry α φ)} (h : s.registry.Shows log)
include h

lemma resolveAt_found (make : φ → Store α φ ρ → Made α × Store α φ ρ) {c : String} {i : Nat}
    {e : Entry α φ} (he : (ofCapability c log)[i]? = some e) :
    s.resolveAt make c i = e.produce make s := by
  have hc : e.capability = c := by
    simpa using (List.mem_filter.1 (List.mem_of_getElem? he)).2
  rw [resolveAt, h.at_eq_ok he, resolveFound, ← hc]
  exact instantiate_ofEntry make e s

lemma resolveNamed_found (make : φ → Store α φ ρ → Made α × Store α φ ρ) {n : String}
    {e : Entry α φ} (he : e ∈ log) (hn : e.name = some n) :
    s.resolveNamed make e.capability n = e.produce make s := by
  rw [resolveNamed, h.named_eq_found he hn, if_pos rfl]
  exact instantiate_ofEntry make e s

lemma resolveNamed_other (make : φ → Store α φ ρ → Made α × Store α φ ρ) {c n : String}
    {e : Entry α φ} (he : e ∈ log) (hn : e.name = some n) (hc : e.capability ≠ c) :
    s.resolveNamed make c n = (.error (.refused (.typeMismatch n c e.capability)), s) := by
  rw [resolveNamed, h.named_eq_found he hn, if_neg hc]
  rfl

lemma resolveNamed_none (make : φ → Store α φ ρ → Made α × Store α φ ρ) {c n : String}
    (hn : ¬∃ e ∈ log, e.name = some n) :
    s.resolveNamed make c n = (.error (.refused (.notFound ("'" ++ n ++ "'"))), s) := by
  rw [resolveNamed, h.named_eq_missing hn]
  rfl

lemma resolveAt_missing_iff (make : φ → Store α φ ρ → Made α × Store α φ ρ) (c : String)
    (i : Nat) : Missing (s.resolveAt make c i).1 ↔ (ofCapability c log).length ≤ i := by
  constructor
  · intro hm
    by_contra hi
    have he := List.getElem?_eq_getElem (Nat.lt_of_not_le hi)
    rw [resolveAt_found h make he] at hm
    exact not_missing_produce make _ s hm
  · intro hi
    rw [resolveAt, h.at_eq_error hi]
    trivial

lemma resolveNamed_missing_iff (make : φ → Store α φ ρ → Made α × Store α φ ρ) (c n : String) :
    Missing (s.resolveNamed make c n).1 ↔ ¬∃ e ∈ log, e.name = some n := by
  constructor
  · rintro hm ⟨e, he, hn⟩
    by_cases hc : e.capability = c
    · subst hc
      rw [resolveNamed_found h make he hn] at hm
      exact not_missing_produce make e s hm
    · rw [resolveNamed_other h make he hn hc] at hm
      exact hm
  · intro hn
    rw [resolveNamed_none h make hn]
    trivial

lemma resolveNamed_mismatched_iff (make : φ → Store α φ ρ → Made α × Store α φ ρ) (c n : String) :
    Mismatched (s.resolveNamed make c n).1 ↔ ∃ e ∈ log, e.name = some n ∧ e.capability ≠ c := by
  constructor
  · intro hm
    by_cases hn : ∃ e ∈ log, e.name = some n
    · obtain ⟨e, he, hn⟩ := hn
      refine ⟨e, he, hn, ?_⟩
      rintro rfl
      rw [resolveNamed_found h make he hn] at hm
      exact not_mismatched_produce make e s hm
    · rw [resolveNamed_none h make hn] at hm
      exact hm.elim
  · rintro ⟨e, he, hn, hc⟩
    rw [resolveNamed_other h make he hn hc]
    trivial

lemma reads_of_shows : s.Reads log where
  resolveAt_eq make _ _ _ he := resolveAt_found h make he
  resolveAt_missing := resolveAt_missing_iff h
  resolveNamed_missing := resolveNamed_missing_iff h
  resolveNamed_mismatched := resolveNamed_mismatched_iff h
  resolveNamed_eq := by
    rintro make _ n k e he hn rfl
    have hnamed := resolveNamed_found h make (List.mem_of_getElem? he) hn
    have hat := resolveAt_found h make (getElem?_ofCapability he)
    exact ⟨hnamed, hnamed.trans hat.symm⟩
  names_unique := h.nodup
  count_eq c := by rw [Registry.count, h.of_eq, List.length_map]
  size_eq := h.size_eq
  containsName_iff := h.containsName_iff
  names_sorted := by
    refine Std.TreeMap.ordered_keys.imp ?_
    intro a b hab
    exact compareOfLessAndEq_eq_lt.1 hab
  mem_names_iff n := by
    rw [Registry.names, Std.TreeMap.mem_keys, ← h.containsName_iff]
    rfl
  source_at c i r hr := by
    unfold Registry.at? at hr
    split at hr
    · rename_i r' hget
      cases hr
      exact h.isSome_source (List.mem_of_getElem? hget)
    · cases hr
  source_named c n r hr := by
    by_cases hn : ∃ e ∈ log, e.name = some n
    · obtain ⟨e, he, hn⟩ := hn
      rw [h.named_eq_found he hn] at hr
      split at hr
      · rename_i hc
        cases hr
        rw [← hc, source_ofEntry]
        rfl
      · cases hr
    · rw [h.named_eq_missing hn] at hr
      cases hr
  source_of _ _ hr := h.isSome_source hr

end Store

theorem Logged.store_reads_log (rest : ρ) (changes : List (Change α φ ρ)) :
    ((fresh rest).run changes).store.Reads ((fresh rest).run changes).log := by
  apply Store.reads_of_shows
  exact shows_run Registry.Shows.empty changes

-- A batch with a name that is taken leaves no trace.
example :
    let main : Entry Nat Empty := ⟨"clock", some "main", .instance 1⟩
    ((Logged.fresh ()).run [.provide ⟨"clock", none, .instance 0⟩, .provide main,
      .provideAll [⟨"timer", some "t", .instance 2⟩, main],
      .provide ⟨"clock", some "t", .instance 3⟩]).log.map (·.name) =
        [none, some "main", some "t"] := by
  decide +kernel

end Resilience
