import Resilience.Crash
import Resilience.Scalar

/-! How long to wait before the next attempt. Every strategy scales the initial delay by a factor
that depends on the attempt number, except for the one that lists its delays. -/

namespace Resilience

inductive Strategy (R : Type) where
  | fixed
  | linear
  | exponential (base : R)
  | fibonacci
  | custom (millis : List UInt64)
deriving BEq

structure Backoff (R : Type) where
  strategy : Strategy R
  initial : Duration
  limit : Duration

namespace Backoff

def wordMax : Nat := 18446744073709551615

/-- `n` further members of the Fibonacci sequence, cut off at the largest word. Once the smaller
of the two is cut off nothing changes any more. -/
def fibonacciFrom : Nat → Nat → Nat → Nat
  | 0, _, b => b
  | n + 1, a, b => if a = wordMax then b else fibonacciFrom n b (min (a + b) wordMax)

def fibonacci (n : Nat) : Nat :=
  if n = 0 then 0 else if n ≤ 2 then 1 else fibonacciFrom (n - 2) 1 1

variable {R : Type} [Scalar R]

def scaled (b : Backoff R) (factor : R) : Duration :=
  let nanos : R := Scalar.ofNat b.initial.nanos * factor
  if Scalar.isNaN nanos ∨ nanos ≤ Scalar.ofNat 0 then .zero
  else match Scalar.value? nanos with
    | none => b.limit
    | some v =>
      if Scalar.ofNat b.limit.nanos ≤ nanos then b.limit
      else Duration.ofNanos (Scalar.wholePart v)

def listed (millis : List UInt64) (attempt : Nat) : Option UInt64 :=
  millis[attempt - 1]? <|> millis.getLast?

def base (b : Backoff R) (attempt : Nat) : Duration :=
  match b.strategy with
  | .fixed => b.initial
  | .linear => b.scaled (Scalar.ofNat attempt)
  | .exponential base =>
    if attempt = 0 then .zero else b.scaled (Scalar.power base (min (attempt - 1) 2147483647))
  | .fibonacci => b.scaled (Scalar.ofNat (fibonacci attempt))
  | .custom millis =>
    match listed millis attempt with
    | some ms => Duration.ofMillis ms
    | none => b.limit

/-- The delay before the attempt after `attempt`. -/
def delay (b : Backoff R) (attempt : Nat) : Duration := min (b.base attempt) b.limit

/-- The delay spread by a random factor. Fails if that is too long to be represented. -/
def jittered (b : Backoff R) (draw : R) (attempt : Nat) : Except Crash Duration :=
  match Scalar.toDuration? (Scalar.seconds (b.delay attempt).nanos * draw) with
  | some d => .ok (min d b.limit)
  | none => .error .jitterOverflow

end Backoff

end Resilience
