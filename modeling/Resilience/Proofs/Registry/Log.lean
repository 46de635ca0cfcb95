import Mathlib.Data.List.Nodup
import Mathlib.Tactic.Lemma
import Resilience.Registry.Resolve

namespace Resilience

variable {α φ ρ : Type}

def namesOf (log : List (Entry α φ)) : List String := log.filterMap (·.name)

def ofCapability (capability : String) (log : List (Entry α φ)) : List (Entry α φ) :=
  log.filter (·.capability = capability)

lemma mem_namesOf {log : List (Entry α φ)} {n : String} :
    n ∈ namesOf log ↔ ∃ e ∈ log, e.name = some n := by
  simp [namesOf]

lemma namesOf_append (l m : List (Entry α φ)) : namesOf (l ++ m) = namesOf l ++ namesOf m :=
  List.filterMap_append ..

lemma ofCapability_append (c : String) (l m : List (Entry α φ)) :
    ofCapability c (l ++ m) = ofCapability c l ++ ofCapability c m :=
  List.filter_append ..

lemma find_name_eq {log : List (Entry α φ)} (hl : (namesOf log).Nodup) {e : Entry α φ} {n : String}
    (he : e ∈ log) (hn : e.name = some n) : log.find? (·.name = some n) = some e := by
  induction log with
  | nil => cases he
  | cons d log ih =>
    rw [List.find?_cons]
    by_cases hd : d.name = some n
    · have hnot : n ∉ namesOf log := by
        have : namesOf (d :: log) = n :: namesOf log := by simp [namesOf, hd]
        rw [this] at hl
        exact (List.nodup_cons.1 hl).1
      rcases List.mem_cons.1 he with rfl | he
      · simp [hd]
      · exact absurd (mem_namesOf.2 ⟨e, he, hn⟩) hnot
    · simp only [hd, decide_false]
      apply ih
      · exact hl.sublist (List.Sublist.filterMap _ (List.sublist_cons_self d log))
      · rcases List.mem_cons.1 he with rfl | he
        · exact absurd hn hd
        · exact he

inductive Change (α φ ρ : Type) where
  | provide (entry : Entry α φ)
  | provideAll (batch : List (Entry α φ))
  | clear
  | elsewhere (rest : ρ)

structure Logged (α φ ρ : Type) where
  store : Store α φ ρ
  log : List (Entry α φ) := []

namespace Logged

def accept (k : Logged α φ ρ) (entries : List (Entry α φ)) :
    Except RegistryError Unit × Store α φ ρ → Logged α φ ρ
  | (.ok _, s) => ⟨s, k.log ++ entries⟩
  | (.error _, s) => ⟨s, k.log⟩

def step (k : Logged α φ ρ) : Change α φ ρ → Logged α φ ρ
  | .provide e => k.accept [e] (k.store.onRegistry (·.provide e))
  | .provideAll batch => k.accept batch (k.store.onRegistry (·.provideAll batch))
  | .clear => ⟨k.store.clear, []⟩
  | .elsewhere rest => { k with store.rest := rest }

def run (k : Logged α φ ρ) (changes : List (Change α φ ρ)) : Logged α φ ρ := changes.foldl step k

def fresh (rest : ρ) : Logged α φ ρ := ⟨⟨{}, rest⟩, []⟩

end Logged

namespace Registry

structure Shows (g : Registry α φ) (log : List (Entry α φ)) : Prop where
  of_eq : ∀ c, g.of c = (ofCapability c log).map .ofEntry
  named_eq : ∀ n : String, g.byName[n]? = (log.find? (·.name = some n)).map .ofEntry
  nodup : (namesOf log).Nodup
  size_eq : g.size = log.length

lemma Shows.empty : Shows ({} : Registry α φ) [] where
  of_eq c := by simp [of, ofCapability]
  named_eq n := by simp
  nodup := List.nodup_nil
  size_eq := rfl

lemma of_insert (g : Registry α φ) (r : Registration α φ) (c : String) :
    (g.insert r).of c = if r.capability = c then g.of c ++ [r] else g.of c := by
  simp only [of, insert, Std.TreeMap.getElem?_insert, Std.LawfulEqCmp.compare_eq_iff_eq]
  split
  · rename_i h
    simp [h]
  · rfl

lemma byName_insert (g : Registry α φ) (r : Registration α φ) (n : String) :
    (g.insert r).byName[n]? = if r.name = some n then some r else g.byName[n]? := by
  cases hr : r.name with
  | none => simp [insert, hr]
  | some m => simp [insert, hr, Std.TreeMap.getElem?_insert]

lemma Shows.insert {g : Registry α φ} {log : List (Entry α φ)} (h : Shows g log) {e : Entry α φ}
    (he : (namesOf (log ++ [e])).Nodup) : Shows (g.insert (.ofEntry e)) (log ++ [e]) where
  of_eq c := by
    rw [of_insert, h.of_eq, ofCapability_append, List.map_append]
    by_cases hc : e.capability = c <;> simp [Registration.ofEntry, ofCapability, hc]
  named_eq n := by
    rw [byName_insert, h.named_eq, List.find?_append]
    by_cases hn : e.name = some n
    · have hnone : log.find? (·.name = some n) = none := by
        rw [List.find?_eq_none]
        intro d hd hdn
        rw [namesOf_append, List.nodup_append] at he
        have hd' : n ∈ namesOf log := mem_namesOf.2 ⟨d, hd, by simpa using hdn⟩
        exact he.2.2 n hd' n (mem_namesOf.2 ⟨e, by simp, hn⟩) rfl
      simp [Registration.ofEntry, hn, hnone]
    · simp [Registration.ofEntry, hn]
  nodup := he
  size_eq := by simp [Registry.insert, h.size_eq]

lemma Shows.insertAll {g : Registry α φ} {log : List (Entry α φ)} (h : Shows g log)
    (batch : List (Entry α φ)) (hb : (namesOf (log ++ batch)).Nodup) :
    Shows ((batch.map .ofEntry).foldl Registry.insert g) (log ++ batch) := by
  induction batch generalizing g log with
  | nil => simpa using h
  | cons e batch ih =>
    have hsplit : log ++ e :: batch = (log ++ [e]) ++ batch := by simp
    rw [hsplit] at hb ⊢
    have hfirst : (namesOf (log ++ [e])).Nodup := by
      rw [namesOf_append] at hb
      exact hb.of_append_left
    exact ih (h.insert hfirst) hb

lemma Shows.holder_eq_none_iff {g : Registry α φ} {log : List (Entry α φ)} (h : Shows g log)
    (earlier : List (Entry α φ)) (n : String) :
    g.holder? (earlier.map .ofEntry) n = none ↔ n ∉ namesOf (log ++ earlier) := by
  rw [namesOf_append, List.mem_append, mem_namesOf, mem_namesOf]
  unfold holder?
  rw [h.named_eq]
  cases hf : log.find? (·.name = some n) with
  | some e =>
    have he := List.find?_some hf
    have hmem := List.mem_of_find?_eq_some hf
    simp only [Option.map_some, reduceCtorEq, false_iff, not_not]
    exact .inl ⟨e, hmem, by simpa using he⟩
  | none =>
    have hnone : ∀ e ∈ log, ¬e.name = some n := by simpa using hf
    simpa [Registration.ofEntry, List.find?_eq_none] using fun _ => hnone

lemma Shows.nodup_of_unique {g : Registry α φ} {log : List (Entry α φ)} (h : Shows g log)
    (earlier batch : List (Entry α φ)) (hn : (namesOf (log ++ earlier)).Nodup)
    (hb : g.checkUnique (earlier.map .ofEntry) (batch.map .ofEntry) = .ok ()) :
    (namesOf (log ++ earlier ++ batch)).Nodup := by
  induction batch generalizing earlier with
  | nil => simpa using hn
  | cons e batch ih =>
    simp only [List.map_cons, checkUnique] at hb
    split at hb
    · cases hb
    · rename_i hfree
      have hnew : (namesOf (log ++ (earlier ++ [e]))).Nodup := by
        rw [← List.append_assoc, namesOf_append, List.nodup_append']
        refine ⟨hn, ?_, ?_⟩
        · cases he : e.name <;> simp [namesOf, he]
        · cases he : e.name with
          | none => simp [namesOf, he]
          | some n =>
            have : g.holder? (earlier.map .ofEntry) n = none := by
              simpa [Registration.ofEntry, he] using hfree
            have := (h.holder_eq_none_iff earlier n).1 this
            simpa [namesOf, he] using this
      have := ih (earlier ++ [e]) hnew (by simpa using hb)
      simpa using this

lemma provideAll_eq_ok {g g' : Registry α φ} {batch : List (Entry α φ)}
    (h : g.provideAll batch = .ok g') :
    g.checkUnique [] (batch.map .ofEntry) = .ok () ∧
      g' = (batch.map .ofEntry).foldl Registry.insert g := by
  unfold provideAll at h
  cases hnames : (batch.map Registration.ofEntry).forM checkName with
  | error e => simp [hnames, bind, Except.bind] at h
  | ok _ =>
    cases hunique : g.checkUnique [] (batch.map Registration.ofEntry) with
    | error e => simp [hnames, hunique, bind, Except.bind] at h
    | ok _ =>
      simp only [hnames, hunique, bind, Except.bind, pure, Except.pure, Except.ok.injEq] at h
      exact ⟨rfl, h.symm⟩

lemma Shows.provideAll {g g' : Registry α φ} {log : List (Entry α φ)} (h : Shows g log)
    {batch : List (Entry α φ)} (hb : g.provideAll batch = .ok g') : Shows g' (log ++ batch) := by
  obtain ⟨hunique, rfl⟩ := provideAll_eq_ok hb
  have hnodup := h.nodup_of_unique [] batch (by simpa using h.nodup) hunique
  exact h.insertAll batch (by simpa using hnodup)

end Registry

namespace Logged

open Registry (Shows)

lemma shows_accept {k : Logged α φ ρ} (h : Shows k.store.registry k.log)
    (batch : List (Entry α φ)) :
    Shows (k.accept batch (k.store.onRegistry (·.provideAll batch))).store.registry
      (k.accept batch (k.store.onRegistry (·.provideAll batch))).log := by
  simp only [Store.onRegistry]
  split
  · rename_i g hb
    exact h.provideAll hb
  · exact h

lemma shows_step {k : Logged α φ ρ} (h : Shows k.store.registry k.log) (c : Change α φ ρ) :
    Shows (k.step c).store.registry (k.step c).log := by
  cases c with
  | provide e => exact shows_accept h [e]
  | provideAll batch => exact shows_accept h batch
  | clear => exact Shows.empty
  | elsewhere rest => exact h

lemma shows_run {k : Logged α φ ρ} (h : Shows k.store.registry k.log)
    (changes : List (Change α φ ρ)) : Shows (k.run changes).store.registry (k.run changes).log := by
  induction changes generalizing k with
  | nil => exact h
  | cons c changes ih => exact ih (shows_step h c)

end Logged

end Resilience
