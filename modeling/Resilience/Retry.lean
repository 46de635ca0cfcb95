import Resilience.Backoff
import Resilience.Failure

namespace Resilience

inductive Decision where
  | retry (after : Duration)
  | exhausted
  | abort
deriving DecidableEq

/-- A policy may keep notes of type `ε` and may look at the clock. -/
structure RetryPolicy (ε : Type) where
  /-- The number of attempts, if it is fixed in advance. -/
  budget : Option Nat
  decide : (now attempt : Nat) → Failure → ε → Except Crash Decision × ε

def RetryPolicy.ofFunction {ε : Type} (f : Nat → Failure → Decision) : RetryPolicy ε where
  budget := none
  decide _ attempt error notes := (.ok (f attempt error), notes)

structure BackoffPolicy (R : Type) where
  maxAttempts : UInt32
  initialDelay : Duration
  maxDelay : Duration
  strategy : Strategy R
  jitter : Bool
deriving BEq

namespace BackoffPolicy

def standard : BackoffPolicy Float where
  maxAttempts := 3
  initialDelay := .ofMillis 100
  maxDelay := .ofSecs 30
  strategy := .exponential 2.0
  jitter := true

def conservative : BackoffPolicy Float where
  maxAttempts := 5
  initialDelay := .ofMillis 500
  maxDelay := .ofSecs 60
  strategy := .exponential 1.5
  jitter := true

def aggressive : BackoffPolicy Float where
  maxAttempts := 10
  initialDelay := .ofMillis 50
  maxDelay := .ofSecs 5
  strategy := .exponential 1.2
  jitter := true

def fixed {R : Type} (maxAttempts : UInt32) (delay : Duration) : BackoffPolicy R where
  maxAttempts := maxAttempts
  initialDelay := delay
  maxDelay := delay
  strategy := .fixed
  jitter := false

/-- The longest delay is the last one, which must be representable. -/
def linear {R : Type} (maxAttempts : UInt32) (delay : Duration) :
    Except Crash (BackoffPolicy R) :=
  match delay.mul? (max maxAttempts.toNat 1) with
  | some longest => .ok {
      maxAttempts := maxAttempts
      initialDelay := delay
      maxDelay := longest
      strategy := .linear
      jitter := false }
  | none => .error .delayOverflow

variable {R : Type} [Scalar R] (p : BackoffPolicy R)

def backoff : Backoff R := ⟨p.strategy, p.initialDelay, p.maxDelay⟩

def delay (draw : R) (attempt : Nat) : Except Crash Duration :=
  if p.jitter then p.backoff.jittered draw attempt else .ok (p.backoff.delay attempt)

def validate : Except Failure Unit := do
  if p.maxDelay < p.initialDelay then
    throw (.invalid ("retry initial_delay (" ++ p.initialDelay.brief ++ ") exceeds max_delay (" ++
      p.maxDelay.brief ++ ")"))
  match p.strategy with
  | .exponential base =>
    if (Scalar.value? base).isNone ∨ base < Scalar.ofNat 1 then
      throw (.invalid ("exponential base must be >= 1.0, got " ++ Scalar.text base))
  | .custom millis =>
    if millis.isEmpty then throw (.invalid "custom backoff needs at least one delay")
  | _ => pure ()

/-- The wait an error asks for goes before the schedule; it is capped but not spread. -/
def decide (draw : R) (attempt : Nat) (error : Failure) : Except Crash Decision :=
  if !error.isRetryable then .ok .abort
  else if p.maxAttempts.toNat ≤ attempt then .ok .exhausted
  else match error.retryDelay? with
    | some d => .ok (.retry (min d p.maxDelay))
    | none => (p.delay draw attempt).map .retry

def policy {ε : Type} (draw : ε → R × ε) : RetryPolicy ε where
  budget := some p.maxAttempts.toNat
  decide _ attempt error notes :=
    let (factor, notes) := draw notes
    (p.decide factor attempt error, notes)

end BackoffPolicy

end Resilience
