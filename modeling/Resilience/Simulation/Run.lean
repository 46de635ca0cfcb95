import Resilience.Await
import Resilience.Settings.Basic
import Resilience.Simulation.Injector
import Resilience.Summary

namespace Resilience

structure SimulationReport where
  summary : Summary
  breaker : Option Breaker
  elapsed : Nat

inductive SimulationError where
  | policies (failure : Failure)
  | injector (message : String)
  | executor (error : ExecutionError)
  | crash (crash : Crash)
  | endless

namespace SimulationError

def chain : SimulationError → List String
  | policies f => ["Invalid policy configuration", f.message]
  | injector message => [message]
  | executor e => [e.message]
  | crash c => [c.message]
  | endless => ["the simulation does not end"]

def message (e : SimulationError) : String := e.chain.headD ""

end SimulationError

inductive Ending where
  | never
  | cancelled
  | deadline (at_ : Duration)
  /-- Somebody cancels it after a while. -/
  | interrupted (after : Duration)

namespace Simulation

variable {ε : Type}

/-- The world at the start: the limiter, the breaker and the gate, if there are any, each at
place 0. -/
def machine (p : Pipeline) (gate : Option Gate) (notes : ε) : Machine Unit Simulated ε where
  clock := .start
  cancellation := {}
  notes := notes
  limiters := p.limiter.toList.toArray
  breakers := p.breaker.toList.toArray
  gates := gate.toList.toArray
  jobs := #[]
  deliveries := 0

def place {α : Type} (part : Option α) : Option Nat := part.map fun _ => 0

def task (p : Pipeline) (spread : ε → Float × ε) (index : Nat) : Task Unit ε :=
  (Task.ofBody ("simulated-" ++ toString index) ()).under p (place p.limiter) (place p.breaker) spread

def context (m : Machine Unit Simulated ε) : Ending → Context × Machine Unit Simulated ε
  | .never => m.onAmbient (·.background)
  | .cancelled => m.onAmbient fun a =>
    let (x, a) := a.background
    (x, a.cancel x)
  | .deadline d => m.onAmbient fun a =>
    let (x, a) := a.background
    a.withDeadline x d.nanos
  | .interrupted d =>
    let (x, m) := m.onAmbient (·.background)
    (x, m.setAlarm (m.clock.wake d) x)

def report (draw : ε → Attempt × ε) (spread : ε → Float × ε) (p : Pipeline) (gate : Option Gate)
    (tasks : Nat) (ending : Ending) (notes : ε) : Except SimulationError SimulationReport :=
  let (x, m) := context (machine p gate notes) ending
  let (jobs, m) := m.launchAll (place gate) ((List.range tasks).map (task p spread)) x
  match Wait.finishBy (Simulated.work draw) Instant.horizon (m.joinAll (Simulated.work draw) jobs) with
  | (some (.outcomes rs), m) =>
    .ok ⟨.ofOutcomes rs, p.breaker.map fun _ => m.breaker 0, m.now⟩
  | (some (.crash c), _) => .error (.crash c)
  | _ => .error .endless

end Simulation

structure SimulationArgs where
  tasks : Nat := 100
  failureRate : Float := 0.2
  latencyMillis : UInt64 := 50
  /-- No seed asks for any. -/
  seed : Option UInt64 := none

namespace Simulation

/-- The policies are built first, then the source of attempts, then the executor. -/
def run (c : Settings) (args : SimulationArgs) (entropy : Nat) (ending : Ending) :
    Except SimulationError SimulationReport := do
  let p ← (c.policies.build 0).mapError .policies
  let injector ← (Injector.create args.failureRate args.latencyMillis
    (args.seed.elim entropy UInt64.toNat)).mapError .injector
  c.execution.validate.mapError .executor
  let gate ← c.execution.gate.mapError .crash
  report Injector.draw Injector.spread p gate args.tasks ending injector

end Simulation

namespace SimulationReport

def column (s : String) : String := s ++ String.ofList (List.replicate (20 - s.length) ' ')

def breakerLine : Option Breaker → String
  | some b => "Breaker:   " ++ b.state.text ++ " (" ++ toString b.metrics.requests ++ " requests, " ++
    toString b.metrics.failures ++ " failures, " ++ toString b.metrics.rejected ++ " rejected)"
  | none => "Breaker:   disabled"

def lines (r : SimulationReport) : List String :=
  ["Tasks:     " ++ toString r.summary.total, "Succeeded: " ++ toString r.summary.succeeded] ++
    r.summary.failed.map (fun (kind, n) => "  " ++ column kind ++ " " ++ toString n) ++
    [breakerLine r.breaker, "Elapsed:   " ++ toString (r.elapsed / Instant.millisecond) ++ "ms"]

end SimulationReport

end Resilience
