import Resilience.Proofs.Registry.Acting
import Resilience.Proofs.Registry.Lookup

/-! Resolving all entries of a capability. The entries are those that are registered at the call;
they are gone through in order, whatever their factories do to the store, up to the first factory
that fails. The store is only ever changed by the factories that are run. -/

namespace Resilience

variable {α φ ρ : Type}

/-- A run of a factory: on which store, with what result, and what it has left. -/
structure Making (α φ ρ : Type) where
  factory : φ
  found : Store α φ ρ
  made : Made α
  left : Store α φ ρ

/-- Nothing happens to a store but the listed runs, each on what the one before it has left. -/
inductive Follows (make : φ → Store α φ ρ → Made α × Store α φ ρ) :
    Store α φ ρ → List (Making α φ ρ) → Store α φ ρ → Prop
  | refl {s : Store α φ ρ} : Follows make s [] s
  | run {f : φ} {m : Made α} {s u v : Store α φ ρ} {runs : List (Making α φ ρ)} :
      make f s = (m, u) → Follows make u runs v → Follows make s (⟨f, s, m, u⟩ :: runs) v

inductive Walk : List (Entry α φ) → List (Making α φ ρ) → Except ResolveError (List α) → Prop
  | done : Walk [] [] (.ok [])
  | stored {e : Entry α φ} {a : α} {es : List (Entry α φ)} {runs : List (Making α φ ρ)}
      {result : Except ResolveError (List α)} : e.source = .instance a → Walk es runs result →
      Walk (e :: es) runs (result.map (a :: ·))
  | made {e : Entry α φ} {a : α} {m : Making α φ ρ} {es : List (Entry α φ)}
      {runs : List (Making α φ ρ)} {result : Except ResolveError (List α)} :
      e.source = .factory m.factory → m.made = .value a → Walk es runs result →
      Walk (e :: es) (m :: runs) (result.map (a :: ·))
  | failed {e : Entry α φ} {m : Making α φ ρ} {cause : Report} {es : List (Entry α φ)} :
      e.source = .factory m.factory → m.made = .failed cause →
      Walk (e :: es) [m] (.error (.refused (.factoryFailed e.capability cause)))
  | crashed {e : Entry α φ} {m : Making α φ ρ} {k : Crash} {es : List (Entry α φ)} :
      e.source = .factory m.factory → m.made = .crashed k →
      Walk (e :: es) [m] (.error (.crashed k))

def Source.factory? : Source α φ → Option φ
  | .instance _ => none
  | .factory f => some f

def factoriesOf (es : List (Entry α φ)) : List φ := es.filterMap (·.source.factory?)

section

variable {c : String} {es : List (Entry α φ)} {runs : List (Making α φ ρ)}

lemma exists_walk (make : φ → Store α φ ρ → Made α × Store α φ ρ)
    (hc : ∀ e ∈ es, e.capability = c) (s : Store α φ ρ) :
    ∃ runs, Walk es runs (Store.instantiateAll make c (es.map .ofEntry) s).1 ∧
      Follows make s runs (Store.instantiateAll make c (es.map .ofEntry) s).2 := by
  induction es generalizing s with
  | nil => exact ⟨[], .done, .refl⟩
  | cons e es ih =>
    obtain ⟨rfl, hc⟩ := List.forall_mem_cons.mp hc
    rw [List.map_cons, Store.instantiateAll, instantiate_ofEntry, Entry.produce]
    cases he : e.source with
    | «instance» a =>
      obtain ⟨runs, hwalk, hfollows⟩ := ih hc s
      exact ⟨runs, .stored he hwalk, hfollows⟩
    | factory f =>
      dsimp only
      rw [Store.run]
      rcases hm : make f s with ⟨m, u⟩
      cases m with
      | value a =>
        obtain ⟨runs, hwalk, hfollows⟩ := ih hc u
        exact ⟨⟨f, s, .value a, u⟩ :: runs, .made he rfl hwalk, .run hm hfollows⟩
      | failed cause => exact ⟨[⟨f, s, .failed cause, u⟩], .failed he rfl, .run hm .refl⟩
      | crashed k => exact ⟨[⟨f, s, .crashed k, u⟩], .crashed he rfl, .run hm .refl⟩

lemma Walk.factories_eq {values : List α} (h : Walk es runs (.ok values)) :
    runs.map Making.factory = factoriesOf es := by
  generalize hr : (.ok values : Except ResolveError (List α)) = result at h
  induction h generalizing values with
  | done => rfl
  | @stored e a es runs result he _ ih =>
    cases result with
    | error _ => cases hr
    | ok _ => simpa [factoriesOf, he, Source.factory?] using ih rfl
  | @made e a m es runs result he _ _ ih =>
    cases result with
    | error _ => cases hr
    | ok _ => simpa [factoriesOf, he, Source.factory?] using ih rfl
  | failed _ _ | crashed _ _ => cases hr

inductive Making.Ends (m : Making α φ ρ) (c : String) : ResolveError → Prop
  | failed {cause : Report} : m.made = .failed cause →
      m.Ends c (.refused (.factoryFailed c cause))
  | crashed {k : Crash} : m.made = .crashed k → m.Ends c (.crashed k)

lemma Walk.stops {error : ResolveError} (h : Walk es runs (.error error)) :
    ∃ reached e later before m, es = reached ++ e :: later ∧ runs = before ++ [m] ∧
      before.map Making.factory = factoriesOf reached ∧ (∀ b ∈ before, ∃ a, b.made = .value a) ∧
      e.source = .factory m.factory ∧ m.Ends e.capability error := by
  generalize hr : (.error error : Except ResolveError (List α)) = result at h
  induction h with
  | done => cases hr
  | @stored e a es runs result he _ ih =>
    cases result with
    | ok _ => cases hr
    | error _ =>
      cases hr
      obtain ⟨reached, d, later, before, m, rfl, rfl, hf, hv, hd, hm⟩ := ih rfl
      refine ⟨e :: reached, d, later, before, m, rfl, rfl, ?_, hv, hd, hm⟩
      simpa [factoriesOf, he, Source.factory?] using hf
  | @made e a n es runs result he hn _ ih =>
    cases result with
    | ok _ => cases hr
    | error _ =>
      cases hr
      obtain ⟨reached, d, later, before, m, rfl, rfl, hf, hv, hd, hm⟩ := ih rfl
      refine ⟨e :: reached, d, later, n :: before, m, rfl, rfl, ?_, ?_, hd, hm⟩
      · simpa [factoriesOf, he, Source.factory?] using hf
      · exact List.forall_mem_cons.mpr ⟨⟨a, hn⟩, hv⟩
  | @failed e m cause es he hm =>
    cases hr
    exact ⟨[], e, es, [], m, rfl, rfl, rfl, List.forall_mem_nil _, he, .failed hm⟩
  | @crashed e m k es he hm =>
    cases hr
    exact ⟨[], e, es, [], m, rfl, rfl, rfl, List.forall_mem_nil _, he, .crashed hm⟩

end

section

variable {make : φ → Store α φ ρ → Made α × Store α φ ρ} {s u v : Store α φ ρ}
  {runs : List (Making α φ ρ)}

lemma Follows.reaches (h : Follows make s runs v) (ha : Acting make) :
    (∀ m ∈ runs, s.Reaches m.found) ∧ s.Reaches v := by
  induction h with
  | refl => exact ⟨List.forall_mem_nil _, .refl _⟩
  | @run f m s u v runs hm _ ih =>
    have hu : s.Reaches u := by
      have hact := ha f s
      rwa [hm] at hact
    exact ⟨List.forall_mem_cons.mpr ⟨.refl s, fun n hn => hu.trans (ih.1 n hn)⟩, hu.trans ih.2⟩

end

/-- Resolving all entries of a capability works on those that are registered at the call. If all
factories come to a value, each is run once; else none is run after the first that does not. As long
as factories act by changes, each of them finds a store in which all this holds too. -/
theorem Logged.resolveAll_works_on_snapshot (make : φ → Store α φ ρ → Made α × Store α φ ρ)
    (rest : ρ) (changes : List (Change α φ ρ)) (c : String) :
    let k := (fresh rest).run changes
    (∃ runs, Walk (ofCapability c k.log) runs (k.store.resolveAll make c).1 ∧
      Follows make k.store runs (k.store.resolveAll make c).2 ∧
      (∀ values, (k.store.resolveAll make c).1 = .ok values →
        runs.map Making.factory = factoriesOf (ofCapability c k.log)) ∧
      (∀ error, (k.store.resolveAll make c).1 = .error error → ∃ reached e later before m,
        ofCapability c k.log = reached ++ e :: later ∧ runs = before ++ [m] ∧
        before.map Making.factory = factoriesOf reached ∧ (∀ b ∈ before, ∃ a, b.made = .value a) ∧
        e.source = .factory m.factory ∧ m.Ends c error) ∧
      (Acting make → ∀ s, s ∈ runs.map Making.found ∨ s = (k.store.resolveAll make c).2 →
        ∃ more, s = ((fresh rest).run (changes ++ more)).store)) ∧
    ∀ depth, Acting (Registry.Shelf.make depth) := by
  intro k
  refine ⟨?_, Registry.Shelf.acting_make⟩
  have hshows : k.store.registry.Shows k.log := shows_run Registry.Shows.empty changes
  have hc : ∀ e ∈ ofCapability c k.log, e.capability = c := fun e he => by
    simpa using (List.mem_filter.mp he).2
  obtain ⟨runs, hwalk, hfollows⟩ := exists_walk make hc k.store
  rw [← hshows.of_eq c] at hwalk hfollows
  refine ⟨runs, hwalk, hfollows, fun values hv => ?_, fun error he => ?_, fun ha s hs => ?_⟩
  · exact Walk.factories_eq (hv ▸ hwalk)
  · obtain ⟨reached, e, later, before, m, hes, hruns, hbefore, hvalues, hsource, hends⟩ :=
      Walk.stops (he ▸ hwalk)
    have hcap : e.capability = c := hc e (by simp [hes])
    exact ⟨reached, e, later, before, m, hes, hruns, hbefore, hvalues, hsource, hcap ▸ hends⟩
  · obtain ⟨hfound, hleft⟩ := hfollows.reaches ha
    have hs' : k.store.Reaches s := by
      rcases hs with hs | rfl
      · obtain ⟨m, hm, rfl⟩ := List.mem_map.mp hs
        exact hfound m hm
      · exact hleft
    obtain ⟨more, rfl⟩ := hs'
    exact ⟨more, by rw [← store_run, run_append]⟩

end Resilience
