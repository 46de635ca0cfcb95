import Resilience.Crash
import Resilience.Registry.Basic

/-! Resolution. Factories run on the store that they are resolved from: they may register, clear and
resolve themselves, so each resolution leaves a store behind. `ρ` is what a store holds besides the
registry. -/

namespace Resilience

structure Store (α φ ρ : Type) where
  registry : Registry α φ
  rest : ρ

inductive Made (α : Type) where
  | value (value : α)
  | failed (cause : Report)
  | crashed (crash : Crash)

inductive ResolveError where
  | refused (error : RegistryError)
  | crashed (crash : Crash)

abbrev Resolved (α φ ρ β : Type) := Except ResolveError β × Store α φ ρ

namespace Store

variable {α φ ρ : Type}

def onRegistry (s : Store α φ ρ) (f : Registry α φ → Except RegistryError (Registry α φ)) :
    Except RegistryError Unit × Store α φ ρ :=
  match f s.registry with
  | .ok registry => (.ok (), { s with registry })
  | .error e => (.error e, s)

def clear (s : Store α φ ρ) : Store α φ ρ := { s with registry := {} }

variable (make : φ → Store α φ ρ → Made α × Store α φ ρ)

def run (capability : String) (f : φ) (s : Store α φ ρ) : Resolved α φ ρ α :=
  match make f s with
  | (.value a, s) => (.ok a, s)
  | (.failed cause, s) => (.error (.refused (.factoryFailed capability cause)), s)
  | (.crashed c, s) => (.error (.crashed c), s)

def instantiate (capability : String) (r : Registration α φ) (s : Store α φ ρ) :
    Resolved α φ ρ α :=
  match r.source? capability with
  | some (.instance a) => (.ok a, s)
  | some (.factory f) => s.run make r.capability f
  | none =>
    (.error (.refused (.typeMismatch (r.name.getD "") capability r.capability)), s)

def resolveFound (capability : String) (found : Except RegistryError (Registration α φ))
    (s : Store α φ ρ) : Resolved α φ ρ α :=
  match found with
  | .ok r => s.instantiate make capability r
  | .error e => (.error (.refused e), s)

def resolveAt (s : Store α φ ρ) (capability : String) (i : Nat) : Resolved α φ ρ α :=
  s.resolveFound make capability (s.registry.at? capability i)

def resolveNamed (s : Store α φ ρ) (capability name : String) : Resolved α φ ρ α :=
  s.resolveFound make capability (s.registry.named? capability name)

def instantiateAll (capability : String) :
    List (Registration α φ) → Store α φ ρ → Resolved α φ ρ (List α)
  | [], s => (.ok [], s)
  | r :: rs, s =>
    match s.instantiate make capability r with
    | (.error e, s) => (.error e, s)
    | (.ok a, s) =>
      let (as, s) := instantiateAll capability rs s
      (as.map (a :: ·), s)

/-- All values of a capability. What factories register meanwhile is not among them. -/
def resolveAll (s : Store α φ ρ) (capability : String) : Resolved α φ ρ (List α) :=
  instantiateAll make capability (s.registry.of capability) s

end Store

end Resilience
