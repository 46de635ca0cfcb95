namespace Resilience.Number

def roundHalfEven (num den : Nat) : Nat :=
  let q := num / den
  let r := num % den
  if 2 * r < den then q
  else if 2 * r > den then q + 1
  else if q % 2 = 0 then q else q + 1

def scaled (num den : Nat) (e : Int) : Nat :=
  roundHalfEven (num <<< (-e).toNat) (den <<< e.toNat)

def lastPlace (num den : Nat) : Int :=
  let guess : Int := (num.log2 : Int) - den.log2 - 52
  let e := if (num <<< (-guess).toNat) / (den <<< guess.toNat) < 4503599627370496 then guess - 1
    else guess
  if e < -1074 then -1074 else e

def ofBitsAt (q : Nat) (e : Int) : Float :=
  let biased := if q < 4503599627370496 then 0 else (e + 1075).toNat
  if biased ≥ 2047 then 1.0 / 0.0
  else
    let bits := if q < 4503599627370496 then q else biased * 4503599627370496 + (q - 4503599627370496)
    if bits ≥ 2047 * 4503599627370496 then 1.0 / 0.0 else Float.ofBits bits.toUInt64

def nearest (num den : Nat) : Float :=
  if num = 0 ∨ den = 0 then 0.0
  else
    let e := lastPlace num den
    ofBitsAt (scaled num den e) e

/-- Sign, mantissa and binary exponent of a finite number. -/
structure Binary where
  negative : Bool
  mantissa : Nat
  exponent : Int

def binary? (x : Float) : Option Binary :=
  let bits := x.toBits.toNat
  let field := bits / 4503599627370496 % 2048
  let rest := bits % 4503599627370496
  let negative := bits ≥ 9223372036854775808
  if field = 2047 then none
  else if field = 0 then some ⟨negative, rest, -1074⟩
  else some ⟨negative, rest + 4503599627370496, field - 1075⟩

namespace Binary

def num (b : Binary) : Nat := b.mantissa <<< b.exponent.toNat
def den (b : Binary) : Nat := 1 <<< (-b.exponent).toNat

def value (b : Binary) : Rat := mkRat (if b.negative then -(b.num : Int) else b.num) b.den

end Binary

end Resilience.Number
