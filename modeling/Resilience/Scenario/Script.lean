import Resilience.Simulation.Attempt

/-! Scripted work. A script lists, for each invocation, the actions it goes through; everything an
invocation does is written down as an event with its instant. -/

namespace Resilience.Scenario

inductive Action where
  | succeed
  | fail (failure : Failure)
  | crash
  | sleep (length : Duration)
  | nap (length : Duration)
  /-- Keeps the thread while time goes by. -/
  | busy (length : Duration)
  | hang
  | untilDone
  | check
  | cancel
  | cancelOther (context : String)
  /-- A sleep under a child context that ends after `limit`. -/
  | within (limit length : Duration)
  | yield
  | showDeadline
  | note (text : String)

inductive Event where
  | started (task : String) (number now : Nat)
  | ended (task : String) (number now : Nat) (outcome : Outcome)
  | dropped (task : String) (number now : Nat)
  | crashed (task : String) (number now : Nat)
  | noted (task : String) (number now : Nat) (text : String)
  | deadline (task : String) (number now : Nat) (deadline : Option Nat)
  | before (tag : String) (now : Nat)
  | after (tag : String) (now : Nat)
  | decided (attempt now : Nat) (failure : Failure)

structure Notes where
  events : List Event := []
  runs : Array Nat := #[]
  contexts : List (String × Context) := []

def Notes.add (n : Notes) (e : Event) : Notes := { n with events := e :: n.events }

def find? {α : Type} (table : List (String × α)) (key : String) : Option α :=
  (table.find? (·.1 == key)).map (·.2)

def put {α : Type} (table : List (String × α)) (key : String) (a : α) : List (String × α) :=
  (key, a) :: table.filter (·.1 != key)

def Notes.count (n : Notes) (body : Nat) : Nat × Notes :=
  let number := n.runs.getD body 0 + 1
  (number, { n with runs := n.runs.setIfInBounds body number })

/-- Bodies are numbered; all tasks made from one body count its runs together. -/
inductive Body where
  | script (body : Nat) (task : String) (plans : List (List Action))
  | simulated (body : Nat) (attempts : List Attempt)

inductive Halt where
  | napping (wake : Nat)
  | sleeping (context : Context) (wake : Nat)
  | hanging
  | ending
  | yielded

structure Invocation where
  task : String
  number : Nat
  context : Context

inductive State where
  | scripted (invocation : Invocation) (halt : Halt) (rest : List Action)
  | simulated (state : Simulated)

abbrev Scene := Ambient Notes

/-- The `n`-th of a list, counted from one; the last one repeats. -/
def nth {α : Type} (as : List α) (n : Nat) : Option α := as[n - 1]? <|> as.getLast?

namespace Invocation

def log (i : Invocation) (s : Scene) (e : String → Nat → Nat → Event) : Scene :=
  s.record (·.add (e i.task i.number s.now))

def finish (i : Invocation) (r : Outcome) (s : Scene) : Progress State × Scene :=
  (.done r, i.log s fun task n now => .ended task n now r)

def fall (i : Invocation) (c : Crash) (s : Scene) : Progress State × Scene :=
  (.crashed c, i.log s .crashed)

def halt (i : Invocation) (h : Halt) (rest : List Action) (s : Scene) : Progress State × Scene :=
  (.pending (.scripted i h rest), s)

def perform (i : Invocation) : List Action → Scene → Progress State × Scene
  | [], s => i.finish (.ok ()) s
  | action :: rest, s =>
    let sleepUnder (x : Context) (d : Duration) (s : Scene) :=
      match Call.pause x d s with
      | .elapsed => perform i rest s
      | .ended r => i.finish (Call.cancelled r) s
      | .wait wake => i.halt (.sleeping x wake) rest s
    match action with
    | .succeed => i.finish (.ok ()) s
    | .fail f => i.finish (.error f) s
    | .crash => i.fall (.raised "scripted panic") s
    | .sleep d => sleepUnder i.context d s
    | .nap d =>
      let wake := s.clock.wake d
      if s.clock.passed wake then perform i rest s else i.halt (.napping wake) rest s
    | .busy d => perform i rest { s with clock := s.clock.spend d }
    | .hang => i.halt .hanging rest s
    | .untilDone =>
      match s.noticed i.context with
      | some r => i.finish (Call.cancelled r) s
      | none => i.halt .ending rest s
    | .check =>
      match s.err i.context with
      | some r => i.finish (Call.cancelled r) s
      | none => perform i rest s
    | .cancel => perform i rest (s.cancel i.context)
    | .cancelOther id =>
      match find? s.notes.contexts id with
      | some x => perform i rest (s.cancel x)
      | none => perform i rest s
    | .within limit d =>
      match s.clock.deadline? limit with
      | none => i.fall .deadlineOverflow s
      | some deadline =>
        let (x, s) := s.withDeadline i.context deadline
        sleepUnder x d s
    | .yield => i.halt .yielded rest s
    | .showDeadline =>
      perform i rest (i.log s fun task n now => .deadline task n now i.context.deadline)
    | .note text => perform i rest (i.log s fun task n now => .noted task n now text)

def resume (i : Invocation) (h : Halt) (rest : List Action) (s : Scene) :
    Progress State × Scene :=
  match h with
  | .napping wake => if s.clock.passed wake then i.perform rest s else i.halt h rest s
  | .sleeping x wake =>
    match Call.repause x wake s with
    | .elapsed => i.perform rest s
    | .ended r => i.finish (Call.cancelled r) s
    | .wait _ => i.halt h rest s
  | .hanging => i.halt h rest s
  | .ending =>
    match s.noticed i.context with
    | some r => i.finish (Call.cancelled r) s
    | none => i.halt h rest s
  | .yielded => i.perform rest s

def ready (i : Invocation) (h : Halt) (s : Scene) : Bool :=
  match h with
  | .napping wake => s.clock.passed wake
  | .sleeping x wake => Call.pauseReady x wake s
  | .hanging => false
  | .ending => (s.noticed i.context).isSome
  | .yielded => true

def timers (i : Invocation) : Halt → List Nat
  | .napping wake => [wake]
  | .sleeping x wake => wake :: x.timers
  | .hanging | .yielded => []
  | .ending => i.context.timers

end Invocation

def work : Work Body State Notes where
  start body x s :=
    match body with
    | .script id task plans =>
      let (number, notes) := s.notes.count id
      let s := { s with notes }
      let i : Invocation := ⟨task, number, x⟩
      i.perform ((nth plans number).getD []) (i.log s .started)
    | .simulated id attempts =>
      let (number, notes) := s.notes.count id
      let s := { s with notes }
      ((Simulated.start ((nth attempts number).getD default) x s).map .simulated, s)
  resume state s :=
    match state with
    | .scripted i h rest => i.resume h rest s
    | .simulated t => ((t.resume s).map .simulated, s)
  abandon state s :=
    match state with
    | .scripted i _ _ => i.log s .dropped
    | .simulated _ => s
  ready state s :=
    match state with
    | .scripted i h _ => i.ready h s
    | .simulated t => t.ready s
  timers
    | .scripted i h _ => i.timers h
    | .simulated t => t.timers

def scriptedPolicy (decisions : List Decision) : RetryPolicy Notes where
  budget := none
  decide now attempt failure notes :=
    (.ok ((nth decisions attempt).getD .abort), notes.add (.decided attempt now failure))

def logging (tag : String) : Observer Notes where
  before now notes := notes.add (.before tag now)
  after now notes := notes.add (.after tag now)

/-- Random factors do not matter to scenarios: every delay stays as it is. -/
def draw (notes : Notes) : Float × Notes := (1.0, notes)

end Resilience.Scenario
