import Resilience.Call
import Resilience.Executor

/-! Launched tasks. A machine holds jobs, which run until they have to wait, on one thread and in
virtual time. A job behind a gate first waits for a permit and gives it back however it ends. The
result of a job is delivered once. -/

namespace Resilience

inductive Phase (β ι ε : Type) where
  | launched (gate : Option Nat) (task : Task β ε) (context : Context)
  | queued (gate : Nat) (task : Task β ε) (context : Context)
  | running (gate : Option Nat) (call : Call β ι ε)
  /-- Waits and then cancels a context. -/
  | alarm (wake : Nat) (context : Context)
  | ended

inductive Delivery where
  | awaited
  /-- The job has ended, with a report or without. `order` numbers the deliveries. -/
  | arrived (report : Option Outcome) (order : Nat)
  | taken

structure Job (β ι ε : Type) where
  name : String
  phase : Phase β ι ε
  aborted : Bool := false
  delivery : Delivery := .awaited

instance {β ι ε : Type} : Inhabited (Job β ι ε) := ⟨{ name := "", phase := .ended }⟩

structure Machine (β ι ε : Type) extends World ε where
  gates : Array Gate
  jobs : Array (Job β ι ε)
  deliveries : Nat

namespace Machine

variable {β ι ε : Type}

def job (m : Machine β ι ε) (i : Nat) : Job β ι ε := m.jobs.getD i default
def gate (m : Machine β ι ε) (i : Nat) : Gate := m.gates.getD i default

def setJob (m : Machine β ι ε) (i : Nat) (j : Job β ι ε) : Machine β ι ε :=
  { m with jobs := m.jobs.setIfInBounds i j }

def setGate (m : Machine β ι ε) (i : Nat) (g : Gate) : Machine β ι ε :=
  { m with gates := m.gates.setIfInBounds i g }

def setPhase (m : Machine β ι ε) (i : Nat) (p : Phase β ι ε) : Machine β ι ε :=
  m.setJob i { m.job i with phase := p }

def onWorld {α : Type} (m : Machine β ι ε) (f : World ε → α × World ε) : α × Machine β ι ε :=
  let (a, w) := f m.toWorld
  (a, { m with toWorld := w })

def onAmbient {α : Type} (m : Machine β ι ε) (f : Ambient ε → α × Ambient ε) :
    α × Machine β ι ε :=
  m.onWorld fun w => w.onAmbient f

def release (m : Machine β ι ε) : Option Nat → Machine β ι ε
  | some g => m.setGate g (m.gate g).release
  | none => m

def finish (m : Machine β ι ε) (i : Nat) (report : Option Outcome) : Machine β ι ε :=
  let j := m.job i
  let m := m.setJob i { j with phase := .ended, delivery := .arrived report m.deliveries }
  { m with deliveries := m.deliveries + 1 }

def advance (m : Machine β ι ε) (i : Nat) (gate : Option Nat) :
    Progress (Call β ι ε) → Machine β ι ε
  | .pending c => m.setPhase i (.running gate c)
  | .done r => (m.release gate).finish i (some r)
  | .crashed _ => (m.release gate).finish i none

variable (work : Work β ι ε)

def enter (m : Machine β ι ε) (i : Nat) (gate : Option Nat) (t : Task β ε) (x : Context) :
    Machine β ι ε :=
  let (p, m) := m.onWorld (Call.ofTask work t x)
  m.advance i gate p

def kill (m : Machine β ι ε) (i : Nat) : Machine β ι ε :=
  match (m.job i).phase with
  | .launched .. | .alarm .. => m.finish i none
  | .queued g _ _ => (m.setGate g ((m.gate g).leave i)).finish i none
  | .running g c =>
    let (_, m) := m.onWorld fun w => ((), c.drop work w)
    (m.release g).finish i none
  | .ended => m

def step (m : Machine β ι ε) (i : Nat) : Machine β ι ε :=
  if (m.job i).aborted then m.kill work i
  else match (m.job i).phase with
    | .launched none t x => m.enter work i none t x
    | .launched (some g) t x =>
      match m.err x with
      | some r => m.finish i (some (Call.cancelled r))
      | none =>
        let (granted, gate) := (m.gate g).request i
        let m := m.setGate g gate
        if granted then m.enter work i (some g) t x else m.setPhase i (.queued g t x)
    | .queued g t x =>
      match m.noticed x with
      | some r => (m.setGate g ((m.gate g).leave i)).finish i (some (Call.cancelled r))
      | none =>
        if (m.gate g).handed.contains i then
          (m.setGate g ((m.gate g).accept i)).enter work i (some g) t x
        else m
    | .running g c =>
      let (p, m) := m.onWorld (c.resume work)
      m.advance i g p
    | .alarm wake x =>
      if m.clock.passed wake then
        let (_, m) := m.onAmbient fun a => ((), a.cancel x)
        m.finish i (some (.ok ()))
      else m
    | .ended => m

def ready (m : Machine β ι ε) (i : Nat) : Bool :=
  match (m.job i).phase with
  | .ended => false
  | p => (m.job i).aborted || match p with
    | .launched .. => true
    | .queued g _ x => (m.gate g).handed.contains i || (m.noticed x).isSome
    | .running _ c => c.ready work m.toAmbient
    | .alarm wake _ => m.clock.passed wake
    | .ended => false

def readyJobs (m : Machine β ι ε) : List Nat :=
  (List.range m.jobs.size).filter (m.ready work)

def timers (m : Machine β ι ε) : List Nat :=
  m.jobs.toList.flatMap fun j => match j.phase with
    | .queued _ _ x => x.timers
    | .running _ c => c.timers work
    | .alarm wake _ => [wake]
    | .launched .. | .ended => []

/-- More rounds than a run can last. -/
def patience : Nat := 4611686018427387904

def run : Nat → Machine β ι ε → Machine β ι ε
  | 0, m => m
  | fuel + 1, m =>
    match m.readyJobs work with
    | [] => m
    | is => run fuel (is.foldl (step work) m)

/-- All jobs run until they have to wait, and timers that are due fire; no time passes. -/
def settle (m : Machine β ι ε) : Machine β ι ε :=
  let m := m.run work patience
  if m.clock.tick < m.clock.floorTick then
    { m with clock := m.clock.announce }.run work patience
  else m

def launch (m : Machine β ι ε) (gate : Option Nat) (t : Task β ε) (x : Context) :
    Nat × Machine β ι ε :=
  (m.jobs.size, { m with jobs := m.jobs.push { name := t.name, phase := .launched gate t x } })

def launchAll (m : Machine β ι ε) (gate : Option Nat) (ts : List (Task β ε)) (x : Context) :
    List Nat × Machine β ι ε :=
  ts.foldl (fun (ids, m) t =>
    let (y, m) := m.onAmbient (·.child x)
    let (i, m) := m.launch gate t y
    (ids ++ [i], m)) ([], m)

def setAlarm (m : Machine β ι ε) (wake : Nat) (x : Context) : Machine β ι ε :=
  { m with jobs := m.jobs.push { name := "alarm", phase := .alarm wake x } }

/-- The job will end when it would run next. -/
def abort (m : Machine β ι ε) (i : Nat) : Machine β ι ε :=
  m.setJob i { m.job i with aborted := true }

def isFinished (m : Machine β ι ε) (i : Nat) : Bool :=
  match (m.job i).phase with
  | .ended => true
  | _ => false

def outcomeOf (report : Option Outcome) : Outcome := report.getD (.error .aborted)

/-- Looks for a result without waiting. A result that was taken reads as aborted. -/
def tryResult (m : Machine β ι ε) (i : Nat) : Option Outcome × Machine β ι ε :=
  match (m.job i).delivery with
  | .awaited => (none, m)
  | .arrived report _ => (some (outcomeOf report), m.setJob i { m.job i with delivery := .taken })
  | .taken => (some (.error .aborted), m)

/-- Looks for a result in order to wait for it. A result must not be waited for twice. -/
def takeResult (m : Machine β ι ε) (i : Nat) : Option (Except Crash Outcome) × Machine β ι ε :=
  match (m.job i).delivery with
  | .awaited => (none, m)
  | .arrived report _ =>
    (some (.ok (outcomeOf report)), m.setJob i { m.job i with delivery := .taken })
  | .taken => (some (.error .alreadyTaken), m)

def hasResult (m : Machine β ι ε) (i : Nat) : Bool :=
  match (m.job i).delivery with
  | .awaited => false
  | _ => true

end Machine

end Resilience
