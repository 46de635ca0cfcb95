import Resilience.Number.Nearest

/-! The shortest decimal that reads back as a given floating point number. Grids of 1 to 17 digits
are tried in turn; the first with a point in the interval of numbers that round to the given one
wins, and of two such points the nearer. -/

namespace Resilience.Number

structure Decimal where
  digits : Nat
  exponent : Int
deriving DecidableEq

/-- Numbers that round to `v`, all in units of `1 / den`. -/
structure Interval where
  low : Nat
  value : Nat
  high : Nat
  den : Nat
  closed : Bool

def Interval.of (b : Binary) : Interval :=
  let up := (b.exponent - 2).toNat
  let below := if b.mantissa = 4503599627370496 ∧ b.exponent > -1074 then 1 else 2
  { low := (4 * b.mantissa - below) <<< up
    value := (4 * b.mantissa) <<< up
    high := (4 * b.mantissa + 2) <<< up
    den := 1 <<< (2 - b.exponent).toNat
    closed := b.mantissa % 2 == 0 }

def Interval.contains (i : Interval) (d : Decimal) : Bool :=
  let x := d.digits * Nat.pow 10 d.exponent.toNat * i.den
  let scale := Nat.pow 10 (-d.exponent).toNat
  if i.closed then i.low * scale ≤ x && x ≤ i.high * scale
  else i.low * scale < x && x < i.high * scale

def leadingExponent (num den : Nat) : Int :=
  if num ≥ den then ((toString (num / den)).length : Int) - 1
  else
    let q := (den + num - 1) / num
    Int.negOfNat (toString (q - 1)).length

def Interval.neighbours (i : Interval) (exponent : Int) : Decimal × Decimal :=
  let d := i.value * Nat.pow 10 (-exponent).toNat / (i.den * Nat.pow 10 exponent.toNat)
  (⟨d, exponent⟩, ⟨d + 1, exponent⟩)

def Interval.nearer (i : Interval) (exponent : Int) (a b : Decimal) : Decimal :=
  let x := i.value * Nat.pow 10 (-exponent).toNat
  let unit := i.den * Nat.pow 10 exponent.toNat
  let toA := x - a.digits * unit
  let toB := b.digits * unit - x
  if toA < toB then a else if toB < toA then b else if a.digits % 2 = 0 then a else b

def Interval.onGrid? (i : Interval) (exponent : Int) : Option Decimal :=
  let (a, b) := i.neighbours exponent
  match i.contains a, i.contains b with
  | true, true => some (i.nearer exponent a b)
  | true, false => some a
  | false, true => some b
  | false, false => none

def Decimal.trim (d : Decimal) : Nat → Decimal
  | 0 => d
  | fuel + 1 =>
    if d.digits % 10 = 0 ∧ d.digits ≠ 0 then
      Decimal.trim ⟨d.digits / 10, d.exponent + 1⟩ fuel
    else d

def shortest (b : Binary) : Decimal :=
  if b.mantissa = 0 then ⟨0, 0⟩
  else
    let i := Interval.of b
    let lead := leadingExponent i.value i.den
    let grids := (List.range 18).map fun (n : Nat) => lead - (n : Int)
    match grids.findSome? i.onGrid? with
    | some d => d.trim 20
    | none => ⟨i.value / i.den, 0⟩

end Resilience.Number
