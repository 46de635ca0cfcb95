import Resilience.Registry.Resolve

namespace Resilience.Registry

/-- A value. Equal numbers mean the same value. -/
structure Item where
  text : String
  number : Nat
deriving DecidableEq

inductive Selection where
  | index (i : Nat)
  | name (name : String)
  | all
deriving DecidableEq

structure Query where
  capability : String
  selection : Selection := .index 0
deriving DecidableEq

inductive SourceKind where
  | singleton
  | factory
  | fallible
deriving DecidableEq

/-- An entry as a script gives it. All parts after the text are for factories. -/
structure Order where
  capability : String
  kind : SourceKind
  name : Option String
  text : String
  clears : Bool
  provides : List Order
  needs : List Query
  crash : Option String
  failure : Option String
  /-- The runs that fail; all of them if there is no list. -/
  failsOn : Option (List Nat)

structure Plan where
  order : Order
  counter : Nat

structure Counts where
  values : Nat := 0
  runs : Array Nat := #[]

abbrev Shelf := Store Item Plan Counts

namespace Shelf

def nextNumber (s : Shelf) : Nat × Shelf :=
  (s.rest.values + 1, { s with rest.values := s.rest.values + 1 })

def newItem (s : Shelf) (text : String) : Item × Shelf :=
  let (n, s) := s.nextNumber
  (⟨text, n⟩, s)

def newCounter (s : Shelf) : Nat × Shelf :=
  (s.rest.runs.size, { s with rest.runs := s.rest.runs.push 0 })

def countRun (s : Shelf) (counter : Nat) : Nat × Shelf :=
  let k := s.rest.runs.getD counter 0
  (k, { s with rest.runs := s.rest.runs.setIfInBounds counter (k + 1) })

def entry (s : Shelf) (o : Order) : Entry Item Plan × Shelf :=
  match o.kind with
  | .singleton =>
    let (item, s) := s.newItem o.text
    (⟨o.capability, o.name, .instance item⟩, s)
  | .factory | .fallible =>
    let (counter, s) := s.newCounter
    (⟨o.capability, o.name, .factory ⟨o, counter⟩⟩, s)

def entries (s : Shelf) (os : List Order) : List (Entry Item Plan) × Shelf :=
  os.foldl (fun (es, s) o =>
    let (e, s) := s.entry o
    (es ++ [e], s)) ([], s)

def provide (s : Shelf) (o : Order) : Except RegistryError Unit × Shelf :=
  let (e, s) := s.entry o
  s.onRegistry (·.provide e)

def provideAll (s : Shelf) (os : List Order) : Except RegistryError Unit × Shelf :=
  let (es, s) := s.entries os
  s.onRegistry (·.provideAll es)

def provideEach (s : Shelf) : List Order → Except RegistryError Unit × Shelf
  | [] => (.ok (), s)
  | o :: os =>
    match s.provide o with
    | (.ok _, s) => provideEach s os
    | (.error e, s) => (.error e, s)

def resolve (make : Plan → Shelf → Made Item × Shelf) (s : Shelf) (q : Query) :
    Resolved Item Plan Counts (List Item) :=
  match q.selection with
  | .all => Store.resolveAll make s q.capability
  | .index i =>
    let (r, s) := Store.resolveAt make s q.capability i
    (r.map fun a => [a], s)
  | .name n =>
    let (r, s) := Store.resolveNamed make s q.capability n
    (r.map fun a => [a], s)

def gather (make : Plan → Shelf → Made Item × Shelf) (s : Shelf) (text : String) :
    List Query → Resolved Item Plan Counts String
  | [] => (.ok text, s)
  | q :: qs =>
    match resolve make s q with
    | (.error e, s) => (.error e, s)
    | (.ok items, s) =>
      gather make s (text ++ "(" ++ "+".intercalate (items.map (·.text)) ++ ")") qs

def failsAt (o : Order) (run : Nat) : Option Report :=
  if (o.failsOn.map (·.contains run)).getD true then o.failure.map fun message => { message }
  else none

def perform (make : Plan → Shelf → Made Item × Shelf) (o : Order) (run : Nat) (s : Shelf) :
    Made String × Shelf :=
  let s := if o.clears then s.clear else s
  match provideEach s o.provides with
  | (.error e, s) => (.failed e.report, s)
  | (.ok _, s) =>
    match gather make s (o.text ++ "#" ++ toString run) o.needs with
    | (.error (.refused e), s) => (.failed e.report, s)
    | (.error (.crashed c), s) => (.crashed c, s)
    | (.ok text, s) =>
      match o.crash, failsAt o run with
      | some message, _ => (.crashed (.raised message), s)
      | none, some cause => (.failed cause, s)
      | none, none => (.value text, s)

def conclude (o : Order) (s : Shelf) : Made String → Made Item × Shelf
  | .value text =>
    let (item, s) := s.newItem text
    (.value item, s)
  | .crashed c => (.crashed c, s)
  | .failed cause =>
    match o.kind with
    | .factory =>
      let (item, s) := s.newItem ("!" ++ cause.message)
      (.value item, s)
    | _ => (.failed cause, s)

def make : Nat → Plan → Shelf → Made Item × Shelf
  | 0, _, s => (.crashed (.raised "factories need one another without end"), s)
  | depth + 1, p, s =>
    let (run, s) := s.countRun p.counter
    let (made, s) := perform (make depth) p.order run s
    conclude p.order s made

def deepest : Nat := 10000

end Shelf

inductive Step where
  | provide (order : Order)
  | provideAll (orders : List Order)
  | resolve (query : Query)
  | count (capability : String)
  | contains (name : String)
  | clear
  | isEmpty
  | show
  | describe (order : Order)

inductive Answer where
  | ok
  | nothing
  | failed (error : RegistryError)
  | crashed (crash : Crash)
  | items (items : List Item)
  | count (n : Nat)
  | flag (b : Bool)
  | text (s : String)
  | entry (entry : Entry Item Plan) (registration : Registration Item Plan)

namespace Shelf

def accepted : Except RegistryError Unit → Answer
  | .ok _ => .ok
  | .error e => .failed e

def step (s : Shelf) : Step → Answer × Shelf
  | .provide o =>
    let (r, s) := s.provide o
    (accepted r, s)
  | .provideAll os =>
    let (r, s) := s.provideAll os
    (accepted r, s)
  | .resolve q =>
    match resolve (make deepest) s q with
    | (.ok items, s) => (.items items, s)
    | (.error (.refused e), s) => (.failed e, s)
    | (.error (.crashed c), s) => (.crashed c, s)
  | .count capability => (.count (s.registry.count capability), s)
  | .contains name => (.flag (s.registry.containsName name), s)
  | .clear => (.nothing, s.clear)
  | .isEmpty => (.flag s.registry.isEmpty, s)
  | .show => (.text s.registry.shown, s)
  | .describe o =>
    let (e, s) := s.entry o
    (.entry e (.ofEntry e), s)

end Shelf

structure Record where
  answer : Answer
  size : Nat
  names : List String

def runSteps : List (String × Registry Item Plan) → Counts → List (String × Step) → List Record
  | _, _, [] => []
  | registries, counts, (id, step) :: rest =>
    let (answer, s) := Shelf.step ⟨(registries.lookup id).getD {}, counts⟩ step
    ⟨answer, s.registry.size, s.registry.names⟩ ::
      runSteps ((id, s.registry) :: registries.filter fun r => r.1 != id) s.rest rest

end Resilience.Registry
