import Resilience.Number.Shortest

/-! Texts of numbers: a plain form that never has an exponent, a form for documents that keeps a
decimal place and uses exponents outside a middle range, and the reader of decimal text. -/

namespace Resilience.Number

def zeros (n : Nat) : String := String.ofList (List.replicate n '0')

def sign (b : Binary) : String := if b.negative then "-" else ""

/-- The digits of `d`, the point `after` digits into them. -/
def positional (d : Decimal) (tail : String) : String :=
  let digits := toString d.digits
  let point : Int := digits.length + d.exponent
  if d.exponent ≥ 0 then digits ++ zeros d.exponent.toNat ++ tail
  else if point > 0 then
    String.ofList (digits.toList.take point.toNat) ++ "." ++
      String.ofList (digits.toList.drop point.toNat)
  else "0." ++ zeros (-point).toNat ++ digits

/-- The plain form: `1.5`, `100`, `-0`, `NaN`, `inf`. -/
def plain (x : Float) : String :=
  match binary? x with
  | some b => sign b ++ positional (shortest b) ""
  | none => if x.isNaN then "NaN" else if x < 0 then "-inf" else "inf"

/-- The form in documents: a decimal place is kept, and numbers from `1e16` on or below `1e-5`
have an exponent: `2.0`, `1e20`, `1.5e-7`, `.inf`. -/
def document (x : Float) : String :=
  match binary? x with
  | none => if x.isNaN then ".nan" else if x < 0 then "-.inf" else ".inf"
  | some b =>
    let d := shortest b
    let digits := toString d.digits
    let point : Int := digits.length + d.exponent
    if b.mantissa = 0 then sign b ++ "0.0"
    else if -5 < point ∧ point ≤ 16 then sign b ++ positional d ".0"
    else
      let mantissa := match digits.toList with
        | [] | [_] => digits
        | c :: rest => String.ofList (c :: '.' :: rest)
      sign b ++ mantissa ++ "e" ++ toString (point - 1)

/-- `digits * 10 ^ exponent` as the nearest number. Exponents far out of range are cut short. -/
def ofDecimal (d : Decimal) : Float :=
  let size : Int := (toString d.digits).length + d.exponent
  if d.digits = 0 ∨ size < -400 then 0.0
  else if size > 400 then 1.0 / 0.0
  else nearest (d.digits * Nat.pow 10 d.exponent.toNat) (Nat.pow 10 (-d.exponent).toNat)

def natOfDigits (cs : List Char) : Nat :=
  cs.foldl (fun n c => n * 10 + (c.toNat - '0'.toNat)) 0

def takeSign : List Char → Bool × List Char
  | '-' :: rest => (true, rest)
  | '+' :: rest => (false, rest)
  | cs => (false, cs)

def unsigned? (cs : List Char) : Option Decimal :=
  let (whole, rest) := cs.span Char.isDigit
  let (fraction, rest) := match rest with
    | '.' :: rest => rest.span Char.isDigit
    | _ => ([], rest)
  if whole.isEmpty && fraction.isEmpty then none
  else
    let digits := natOfDigits (whole ++ fraction)
    match rest with
    | [] => some ⟨digits, -fraction.length⟩
    | e :: rest =>
      let (negative, power) := takeSign rest
      if (e == 'e' || e == 'E') && !power.isEmpty && power.all Char.isDigit then
        let n : Int := natOfDigits power
        some ⟨digits, (if negative then -n else n) - fraction.length⟩
      else none

/-- Reads decimal text; `inf`, `infinity` and `nan` in any case are numbers too. -/
def parse? (text : String) : Option Float :=
  let (negative, rest) := takeSign text.toList
  let signed (x : Float) := if negative then -x else x
  match String.ofList (rest.map Char.toLower) with
  | "inf" | "infinity" => some (signed (1.0 / 0.0))
  | "nan" => some (0.0 / 0.0)
  | _ => (unsigned? rest).map fun d => signed (ofDecimal d)

end Resilience.Number
