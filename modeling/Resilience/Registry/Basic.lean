import Resilience.Blank
import Resilience.Failure
import Resilience.Text
import Std.Data.TreeMap

/-! Registries of shared values. A value is registered under a capability, either as one instance
or as a factory that makes a new value each time. Entries of one capability are numbered in the
order of registration; some have names, which are unique in the whole registry. `α` holds the
values, `φ` describes the factories. -/

namespace Resilience

inductive Lifetime where
  | singleton
  | factory
deriving DecidableEq

def Lifetime.text : Lifetime → String
  | singleton => "singleton"
  | factory => "factory"

def Lifetime.name : Lifetime → String
  | singleton => "Singleton"
  | factory => "Factory"

inductive Source (α φ : Type) where
  | instance (value : α)
  | factory (make : φ)

def Source.lifetime {α φ : Type} : Source α φ → Lifetime
  | .instance _ => .singleton
  | .factory _ => .factory

structure Entry (α φ : Type) where
  capability : String
  name : Option String := none
  source : Source α φ

structure Provider (α φ : Type) where
  capability : String
  source : Source α φ

structure Registration (α φ : Type) where
  capability : String
  name : Option String
  lifetime : Lifetime
  provider : Provider α φ

inductive RegistryError where
  | notFound (what : String)
  | duplicateName (name existing : String)
  | invalidEntry (capability reason : String)
  | typeMismatch (name requested registered : String)
  | factoryFailed (capability : String) (cause : Report)
deriving DecidableEq

namespace RegistryError

def message : RegistryError → String
  | notFound what => "No entry registered for " ++ what
  | duplicateName name existing => "Name '" ++ name ++ "' is already registered for " ++ existing
  | invalidEntry capability reason => "Invalid entry for " ++ capability ++ ": " ++ reason
  | typeMismatch name requested registered =>
    "Entry '" ++ name ++ "' is registered as " ++ registered ++ ", not " ++ requested
  | factoryFailed capability cause => "Factory for " ++ capability ++ " failed: " ++ cause.message

def sources : RegistryError → List String
  | factoryFailed _ cause => cause.message :: cause.causes
  | _ => []

def report (e : RegistryError) : Report := ⟨e.message, e.sources⟩

end RegistryError

namespace Registration

variable {α φ : Type}

def ofEntry (e : Entry α φ) : Registration α φ where
  capability := e.capability
  name := e.name
  lifetime := e.source.lifetime
  provider := ⟨e.capability, e.source⟩

def source? (r : Registration α φ) (capability : String) : Option (Source α φ) :=
  if r.provider.capability = capability then some r.provider.source else none

end Registration

def shownEntry (title capability : String) (name : Option String) (lifetime : Lifetime) : String :=
  let name := match name with
    | some n => "Some(" ++ Text.quote n ++ ")"
    | none => "None"
  title ++ " \x7b capability: " ++ Text.quote capability ++ ", name: " ++ name ++ ", lifetime: " ++
    lifetime.name ++ " \x7d"

def Entry.shown {α φ : Type} (e : Entry α φ) : String :=
  shownEntry "Entry" e.capability e.name e.source.lifetime

def Registration.shown {α φ : Type} (r : Registration α φ) : String :=
  shownEntry "Registration" r.capability r.name r.lifetime

/-- Two indexes over the registrations, and their number. -/
structure Registry (α φ : Type) where
  byCapability : Std.TreeMap String (List (Registration α φ)) := {}
  byName : Std.TreeMap String (Registration α φ) := {}
  size : Nat := 0

namespace Registry

variable {α φ : Type}

instance : Inhabited (Registry α φ) := ⟨{}⟩

def of (g : Registry α φ) (capability : String) : List (Registration α φ) :=
  g.byCapability[capability]?.getD []

def count (g : Registry α φ) (capability : String) : Nat := (g.of capability).length

def containsName (g : Registry α φ) (name : String) : Bool := g.byName.contains name

def names (g : Registry α φ) : List String := g.byName.keys

def isEmpty (g : Registry α φ) : Bool := g.size == 0

def shown (g : Registry α φ) : String :=
  "Container \x7b entries: " ++ toString g.size ++ ", names: [" ++
    ", ".intercalate (g.names.map Text.quote) ++ "] \x7d"

def indexed (capability : String) (i : Nat) : String := capability ++ "[" ++ toString i ++ "]"

def at? (g : Registry α φ) (capability : String) (i : Nat) :
    Except RegistryError (Registration α φ) :=
  match (g.of capability)[i]? with
  | some r => .ok r
  | none => .error (.notFound (indexed capability i))

def named? (g : Registry α φ) (capability name : String) :
    Except RegistryError (Registration α φ) :=
  match g.byName[name]? with
  | none => .error (.notFound ("'" ++ name ++ "'"))
  | some r =>
    if r.capability = capability then .ok r
    else .error (.typeMismatch name capability r.capability)

def insert (g : Registry α φ) (r : Registration α φ) : Registry α φ where
  byCapability := g.byCapability.insert r.capability (g.of r.capability ++ [r])
  byName := match r.name with
    | some n => g.byName.insert n r
    | none => g.byName
  size := g.size + 1

def nameFault (name : String) : Option String :=
  if name.isEmpty then some "name must not be empty"
  else if name.toList.any isBlank then some "name must not contain whitespace"
  else none

def checkName (r : Registration α φ) : Except RegistryError Unit :=
  match r.name.bind nameFault with
  | some reason => .error (.invalidEntry r.capability reason)
  | none => .ok ()

def holder? (g : Registry α φ) (earlier : List (Registration α φ)) (name : String) :
    Option String :=
  match g.byName[name]? with
  | some r => some r.capability
  | none => (earlier.find? fun r => r.name == some name).map (·.capability)

def checkUnique (g : Registry α φ) (earlier : List (Registration α φ)) :
    List (Registration α φ) → Except RegistryError Unit
  | [] => .ok ()
  | r :: rest =>
    match r.name.bind fun n => (g.holder? earlier n).map (n, ·) with
    | some (name, existing) => .error (.duplicateName name existing)
    | none => checkUnique g (earlier ++ [r]) rest

/-- Registers a batch as a whole or not at all. Bad names are reported before names that are
taken. -/
def provideAll (g : Registry α φ) (batch : List (Entry α φ)) :
    Except RegistryError (Registry α φ) := do
  let batch := batch.map Registration.ofEntry
  batch.forM checkName
  g.checkUnique [] batch
  return batch.foldl insert g

def provide (g : Registry α φ) (e : Entry α φ) : Except RegistryError (Registry α φ) :=
  g.provideAll [e]

end Registry

end Resilience
