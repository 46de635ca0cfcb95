import Resilience.Failure

/-! Circuit breakers. A breaker counts failures in a row; at the threshold it opens and rejects
calls until its open period is over. Then it is half-open: one trial call decides whether it
closes or opens again. Each admitted call holds a guard, which is settled once. A reset starts a
new generation, in which guards of earlier ones count as ordinary calls. -/

namespace Resilience

inductive CircuitState where
  | closed
  | opened
  | halfOpen
deriving DecidableEq

structure BreakerConfig where
  failureThreshold : UInt32 := 5
  openDuration : Duration := .ofSecs 60
deriving DecidableEq

def BreakerConfig.validate (c : BreakerConfig) : Except Failure Unit := do
  if c.failureThreshold = 0 then
    throw (.invalid "circuit breaker failure_threshold must be greater than zero")
  if c.openDuration.isZero then
    throw (.invalid "circuit breaker open_duration must be greater than zero")

structure Metrics where
  requests : Nat := 0
  successes : Nat := 0
  failures : Nat := 0
  rejected : Nat := 0
  consecutiveFailures : Nat := 0
  lastFailure : Option Nat := none
  lastSuccess : Option Nat := none
  lastChange : Option Nat := none
deriving DecidableEq

inductive Admission where
  | normal
  | trial
deriving DecidableEq

inductive Settlement where
  | success
  | failure
  | abandoned
deriving DecidableEq

structure Guard where
  admission : Admission
  generation : Nat
deriving DecidableEq

structure Breaker where
  config : BreakerConfig
  state : CircuitState := .closed
  openedAt : Option Nat := none
  trialInFlight : Bool := false
  generation : Nat := 0
  metrics : Metrics := {}
deriving DecidableEq

namespace Breaker

def ofConfig (c : BreakerConfig) : Except Failure Breaker := do
  c.validate
  return { config := c }

instance : Inhabited Breaker := ⟨{ config := {} }⟩

def openFor (b : Breaker) (now : Nat) : Duration :=
  match b.openedAt with
  | some t => .saturating (now - t)
  | none => b.config.openDuration

def halfOpen (b : Breaker) (now : Nat) : Breaker :=
  { b with
    state := .halfOpen
    trialInFlight := true
    metrics := { b.metrics with lastChange := some now } }

def trip (b : Breaker) (now : Nat) : Breaker :=
  { b with
    state := .opened
    openedAt := some now
    trialInFlight := false
    metrics := { b.metrics with lastChange := some now } }

def close (b : Breaker) (now : Nat) : Breaker :=
  { b with
    state := .closed
    openedAt := none
    trialInFlight := false
    metrics := { b.metrics with consecutiveFailures := 0, lastChange := some now } }

def reject (b : Breaker) : Breaker :=
  { b with metrics := { b.metrics with rejected := b.metrics.rejected + 1 } }

def enter (b : Breaker) (now : Nat) : Except Failure Guard × Breaker :=
  match b.state with
  | .closed => (.ok ⟨.normal, b.generation⟩, b)
  | .opened =>
    let elapsed := b.openFor now
    if b.config.openDuration ≤ elapsed ∧ b.trialInFlight = false then
      (.ok ⟨.trial, b.generation⟩, b.halfOpen now)
    else (.error (.circuitOpen (b.config.openDuration.sub elapsed)), b.reject)
  | .halfOpen => (.error (.circuitOpen .zero), b.reject)

/-- A guard of an earlier generation counts as an ordinary call. -/
def roleOf (b : Breaker) (g : Guard) : Admission :=
  if g.generation = b.generation then g.admission else .normal

def countSuccess (b : Breaker) (now : Nat) : Breaker :=
  { b with metrics := { b.metrics with
      requests := b.metrics.requests + 1
      successes := b.metrics.successes + 1
      lastSuccess := some now
      consecutiveFailures := 0 } }

def countFailure (b : Breaker) (now : Nat) : Breaker :=
  { b with metrics := { b.metrics with
      requests := b.metrics.requests + 1
      failures := b.metrics.failures + 1
      lastFailure := some now
      consecutiveFailures := b.metrics.consecutiveFailures + 1 } }

/-- Opens again without a new open period. -/
def giveUpTrial (b : Breaker) (now : Nat) : Breaker :=
  { b with
    state := .opened
    trialInFlight := false
    metrics := { b.metrics with lastChange := some now } }

def settle (b : Breaker) (g : Guard) (s : Settlement) (now : Nat) : Breaker :=
  match s, b.roleOf g with
  | .success, .trial => (b.countSuccess now).close now
  | .success, .normal => b.countSuccess now
  | .failure, .trial => (b.countFailure now).trip now
  | .failure, .normal =>
    let b := b.countFailure now
    if b.state = .closed ∧ b.config.failureThreshold.toNat ≤ b.metrics.consecutiveFailures then
      b.trip now
    else b
  | .abandoned, .trial => b.giveUpTrial now
  | .abandoned, .normal => b

def reset (b : Breaker) (now : Nat) : Breaker :=
  { b with
    state := .closed
    openedAt := none
    trialInFlight := false
    generation := b.generation + 1
    metrics := { lastChange := some now } }

/-- Cancelled calls say nothing about what they called. -/
def settlementOf : Outcome → Settlement
  | .ok _ => .success
  | .error f => if f.isCancelled then .abandoned else .failure

end Breaker

def CircuitState.text : CircuitState → String
  | closed => "closed"
  | opened => "open"
  | halfOpen => "half-open"

def CircuitState.name : CircuitState → String
  | closed => "closed"
  | opened => "open"
  | halfOpen => "half_open"

end Resilience
