import Resilience.Proofs.Registry.Log
import Resilience.Registry.Script

namespace Resilience

variable {α φ ρ : Type}

def Store.Reaches (s u : Store α φ ρ) : Prop :=
  ∃ changes, u = ((⟨s, []⟩ : Logged α φ ρ).run changes).store

lemma Logged.store_step (k : Logged α φ ρ) (c : Change α φ ρ) :
    (k.step c).store = ((⟨k.store, []⟩ : Logged α φ ρ).step c).store := by
  have haccept (l l' : List (Entry α φ)) (es : List (Entry α φ))
      (r : Except RegistryError Unit × Store α φ ρ) :
      ((⟨k.store, l⟩ : Logged α φ ρ).accept es r).store =
        ((⟨k.store, l'⟩ : Logged α φ ρ).accept es r).store := by
    rcases r with ⟨_ | _, s⟩ <;> rfl
  cases c with
  | provide e => exact haccept _ _ _ _
  | provideAll batch => exact haccept _ _ _ _
  | clear | elsewhere rest => rfl

lemma Logged.store_run (k : Logged α φ ρ) (changes : List (Change α φ ρ)) :
    (k.run changes).store = ((⟨k.store, []⟩ : Logged α φ ρ).run changes).store := by
  induction changes generalizing k with
  | nil => rfl
  | cons c changes ih =>
    change ((k.step c).run changes).store =
      (((⟨k.store, []⟩ : Logged α φ ρ).step c).run changes).store
    rw [ih, store_step, ← ih]

lemma Logged.run_append (k : Logged α φ ρ) (changes more : List (Change α φ ρ)) :
    k.run (changes ++ more) = (k.run changes).run more := List.foldl_append ..

def Acting (make : φ → Store α φ ρ → Made α × Store α φ ρ) : Prop :=
  ∀ (f : φ) (s : Store α φ ρ), s.Reaches (make f s).2

namespace Store.Reaches

variable {s u v : Store α φ ρ}

lemma refl (s : Store α φ ρ) : s.Reaches s := ⟨[], rfl⟩

lemma trans (h : s.Reaches u) (h' : u.Reaches v) : s.Reaches v := by
  obtain ⟨changes, rfl⟩ := h
  obtain ⟨more, rfl⟩ := h'
  refine ⟨changes ++ more, ?_⟩
  rw [← Logged.store_run, Logged.run_append]

lemma step (s : Store α φ ρ) (c : Change α φ ρ) :
    s.Reaches ((⟨s, []⟩ : Logged α φ ρ).step c).store := ⟨[c], rfl⟩

lemma elsewhere (s : Store α φ ρ) (rest : ρ) : s.Reaches { s with rest } := step s (.elsewhere rest)

lemma clear (s : Store α φ ρ) : s.Reaches s.clear := step s .clear

lemma provideAll (s : Store α φ ρ) (batch : List (Entry α φ)) :
    s.Reaches (s.onRegistry (·.provideAll batch)).2 := by
  have hs := step s (.provideAll batch)
  rw [Logged.step] at hs
  rcases hr : s.onRegistry (·.provideAll batch) with ⟨_ | _, u⟩ <;> rw [hr] at hs <;> exact hs

end Store.Reaches

section

variable {make : φ → Store α φ ρ → Made α × Store α φ ρ} (ha : Acting make)
include ha

lemma Acting.run (c : String) (f : φ) (s : Store α φ ρ) : s.Reaches (s.run make c f).2 := by
  have hf := ha f s
  rw [Store.run]
  rcases hm : make f s with ⟨_ | _ | _, u⟩ <;> rw [hm] at hf <;> exact hf

lemma Acting.instantiate (c : String) (r : Registration α φ) (s : Store α φ ρ) :
    s.Reaches (s.instantiate make c r).2 := by
  unfold Store.instantiate
  split
  · exact .refl s
  · exact ha.run _ _ s
  · exact .refl s

lemma Acting.resolveFound (c : String) (found : Except RegistryError (Registration α φ))
    (s : Store α φ ρ) : s.Reaches (s.resolveFound make c found).2 := by
  cases found with
  | error _ => exact .refl s
  | ok r => exact ha.instantiate c r s

lemma Acting.instantiateAll (c : String) (rs : List (Registration α φ)) (s : Store α φ ρ) :
    s.Reaches (Store.instantiateAll make c rs s).2 := by
  induction rs generalizing s with
  | nil => exact .refl s
  | cons r rs ih =>
    have hr := ha.instantiate c r s
    rw [Store.instantiateAll]
    rcases hi : s.instantiate make c r with ⟨_ | _, u⟩ <;> rw [hi] at hr
    · exact hr
    · exact hr.trans (ih u)

end

namespace Registry.Shelf

variable {make : Plan → Shelf → Made Item × Shelf} {s : Shelf}

lemma reaches_newItem (s : Shelf) (text : String) : s.Reaches (s.newItem text).2 :=
  .elsewhere s _

lemma reaches_entry (s : Shelf) (o : Order) : s.Reaches (s.entry o).2 := by
  unfold entry
  split
  · exact reaches_newItem s o.text
  · exact .elsewhere s _
  · exact .elsewhere s _

lemma reaches_provide (s : Shelf) (o : Order) : s.Reaches (s.provide o).2 :=
  (reaches_entry s o).trans (.provideAll _ [(s.entry o).1])

lemma reaches_provideEach (s : Shelf) (os : List Order) : s.Reaches (s.provideEach os).2 := by
  induction os generalizing s with
  | nil => exact .refl s
  | cons o os ih =>
    have ho := reaches_provide s o
    rw [provideEach]
    rcases hp : s.provide o with ⟨_ | _, u⟩ <;> rw [hp] at ho
    · exact ho
    · exact ho.trans (ih u)

section

variable (ha : Acting make)
include ha

lemma reaches_resolve (s : Shelf) (q : Query) : s.Reaches (resolve make s q).2 := by
  unfold resolve
  split
  · exact ha.instantiateAll _ _ s
  · exact ha.resolveFound _ _ s
  · exact ha.resolveFound _ _ s

lemma reaches_gather (s : Shelf) (text : String) (qs : List Query) :
    s.Reaches (gather make s text qs).2 := by
  induction qs generalizing s text with
  | nil => exact .refl s
  | cons q qs ih =>
    have hq := reaches_resolve ha s q
    rw [gather]
    rcases hr : resolve make s q with ⟨_ | items, u⟩ <;> rw [hr] at hq
    · exact hq
    · exact hq.trans (ih u _)

lemma reaches_perform (o : Order) (run : Nat) (s : Shelf) :
    s.Reaches (perform make o run s).2 := by
  have hclear : s.Reaches (if o.clears then s.clear else s) := by
    split
    · exact .clear s
    · exact .refl s
  have hprovide := hclear.trans (reaches_provideEach _ o.provides)
  unfold perform
  dsimp only
  generalize (if o.clears then s.clear else s) = u at hprovide
  rcases hp : provideEach u o.provides with ⟨_ | _, v⟩ <;> rw [hp] at hprovide
  · exact hprovide
  · have hgather := hprovide.trans (reaches_gather ha v (o.text ++ "#" ++ toString run) o.needs)
    dsimp only
    rcases hg : gather make v (o.text ++ "#" ++ toString run) o.needs with ⟨(_ | _) | _, t⟩ <;>
      rw [hg] at hgather
    · exact hgather
    · exact hgather
    · dsimp only
      split <;> exact hgather

end

lemma reaches_conclude (o : Order) (s : Shelf) (m : Made String) :
    s.Reaches (conclude o s m).2 := by
  cases m with
  | value text => exact reaches_newItem s text
  | crashed _ => exact .refl s
  | failed cause =>
    unfold conclude
    dsimp only
    split
    · exact reaches_newItem s ("!" ++ cause.message)
    · exact .refl s

lemma acting_make (depth : Nat) : Acting (Shelf.make depth) := by
  induction depth with
  | zero => exact fun _ s => .refl s
  | succ depth ih =>
    intro p (s : Shelf)
    have hcount : s.Reaches (s.countRun p.counter).2 := .elsewhere s _
    have hperform := hcount.trans (reaches_perform ih p.order (s.countRun p.counter).1 _)
    exact hperform.trans (reaches_conclude p.order _ _)

end Registry.Shelf

end Resilience
