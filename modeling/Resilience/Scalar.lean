import Resilience.Duration
import Resilience.Number.Text

/-! Number systems for rates and delays. The library runs on floating point numbers; the exact
rationals satisfy the same interface, so each formula is written once and has an exact reading. -/

namespace Resilience

class Scalar (R : Type) extends Add R, Sub R, Mul R, Div R, LE R, LT R where
  ofNat : Nat → R
  decLe : (a b : R) → Decidable (a ≤ b)
  decLt : (a b : R) → Decidable (a < b)
  value? : R → Option Rat
  text : R → String

namespace Scalar

instance {R : Type} [Scalar R] (a b : R) : Decidable (a ≤ b) := Scalar.decLe a b
instance {R : Type} [Scalar R] (a b : R) : Decidable (a < b) := Scalar.decLt a b

instance : Scalar Float where
  ofNat n := Number.nearest n 1
  decLe a b := inferInstanceAs (Decidable (a ≤ b))
  decLt a b := inferInstanceAs (Decidable (a < b))
  value? x := (Number.binary? x).map Number.Binary.value
  text := Number.plain

instance : Scalar Rat where
  ofNat n := n
  decLe a b := inferInstanceAs (Decidable (a ≤ b))
  decLt a b := inferInstanceAs (Decidable (a < b))
  value? x := some x
  text := toString

variable {R : Type} [Scalar R]

/-- The lesser of two numbers that compare. -/
def least (a b : R) : R := if a ≤ b then a else b
def greatest (a b : R) : R := if a ≤ b then b else a

def isNaN (a : R) : Bool := !decide (a ≤ a)

/-- Nanoseconds as seconds; whole seconds and the rest are converted apart and added. -/
def seconds (nanos : Nat) : R :=
  ofNat (nanos / 1000000000) + ofNat (nanos % 1000000000) / ofNat 1000000000

/-- A length in seconds, rounded to the nearest nanosecond, a half to the even one. None if it is
negative, too long or no number. -/
def toDuration? (a : R) : Option Duration := do
  let v ← value? a
  if v < 0 then none
  else Duration.ofNanos? (Number.roundHalfEven (v.num.toNat * 1000000000) v.den)

/-- The whole part of a number that is not negative, at most `2 ^ 64 - 1`. -/
def wholePart (v : Rat) : UInt64 := (min v.floor.toNat 18446744073709551615).toUInt64

/-- Powers by repeated squaring: the factor for each binary digit of the exponent is multiplied in,
lowest digit first. -/
def powerFrom (result base : R) (n : Nat) : R :=
  let result := if n % 2 = 1 then result * base else result
  if h : n / 2 = 0 then result else powerFrom result (base * base) (n / 2)
termination_by n

def power (base : R) (n : Nat) : R := powerFrom (ofNat 1) base n

end Scalar

end Resilience
