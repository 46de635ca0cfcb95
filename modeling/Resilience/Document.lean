import Resilience.Crash
import Resilience.Number.Text

/-! Documents: values of a data format before anything is known about their meaning. Formats with
untyped scalars leave these as text; what such a scalar stands for depends on what is asked of
it. -/

namespace Resilience

structure Scalar.Written where
  text : String
  plain : Bool
  /-- Written as a block that keeps its line breaks. -/
  literal : Bool := false
  tag : Option String := none
deriving DecidableEq

inductive Document where
  | null
  | bool (b : Bool)
  | integer (n : Int)
  | float (x : Float)
  | text (s : String)
  | written (s : Scalar.Written)
  /-- In some formats a list may stand for a record, its fields in order. -/
  | list (positional : Bool) (items : List Document)
  | map (entries : List (Document × Document))
  /-- A list or map under a tag of one's own. -/
  | tagged (tag : String) (d : Document)

namespace Document

instance : Inhabited Document := ⟨null⟩

def isNullText (s : String) : Bool := s == "~" || s == "null" || s == "Null" || s == "NULL"

def boolOfText? (s : String) : Option Bool :=
  if s == "true" || s == "True" || s == "TRUE" then some true
  else if s == "false" || s == "False" || s == "FALSE" then some false
  else none

def digitValue (c : Char) : Nat :=
  if c.isDigit then c.toNat - '0'.toNat
  else if 'a' ≤ c ∧ c ≤ 'f' then c.toNat - 'a'.toNat + 10
  else if 'A' ≤ c ∧ c ≤ 'F' then c.toNat - 'A'.toNat + 10
  else 99

def natOfBase? (base : Nat) (cs : List Char) : Option Nat :=
  if cs.isEmpty || cs.any (fun c => base ≤ digitValue c) then none
  else some (cs.foldl (fun n c => n * base + digitValue c) 0)

/-- Digits with zeros in front are no number. -/
def isPaddedNumber (cs : List Char) : Bool :=
  match cs with
  | '0' :: c :: rest => (c :: rest).all Char.isDigit
  | _ => false

def magnitude? : List Char → Option Nat
  | '0' :: 'x' :: rest => natOfBase? 16 rest
  | '0' :: 'o' :: rest => natOfBase? 8 rest
  | '0' :: 'b' :: rest => natOfBase? 2 rest
  | cs => if isPaddedNumber cs then none else natOfBase? 10 cs

def naturalOfText? (s : String) : Option Nat :=
  match s.toList with
  | '+' :: rest => magnitude? rest
  | cs => magnitude? cs

def integerOfText? (s : String) : Option Int :=
  match s.toList with
  | '-' :: rest => (magnitude? rest).map fun n => -(n : Int)
  | _ => (naturalOfText? s).map fun n => (n : Int)

/-- Infinities and the like have spellings of their own; other numbers must be finite. -/
def floatOfText? (s : String) : Option Float :=
  let body := match s.toList with
    | '+' :: rest => String.ofList rest
    | _ => s
  if body == ".inf" || body == ".Inf" || body == ".INF" then some (1.0 / 0.0)
  else if s == "-.inf" || s == "-.Inf" || s == "-.INF" then some (-1.0 / 0.0)
  else if s == ".nan" || s == ".NaN" || s == ".NAN" then some (0.0 / 0.0)
  else if s.startsWith "+-" || s.startsWith "++" then none
  else match Number.parse? body with
    | some x => if x.isFinite then some x else none
    | none => none

def typed (tag : String) (s : Scalar.Written) : Bool := s.plain || (s.literal && s.tag == some tag)

def intTag : String := "tag:yaml.org,2002:int"
def boolTag : String := "tag:yaml.org,2002:bool"
def floatTag : String := "tag:yaml.org,2002:float"
def nullTag : String := "tag:yaml.org,2002:null"

def ofPlain (s : String) : Document :=
  if s.isEmpty || isNullText s then null
  else match boolOfText? s with
    | some b => bool b
    | none =>
      match integerOfText? s with
      | some n => integer n
      | none =>
        let digits := match s.toList with
          | '+' :: rest | '-' :: rest => rest
          | cs => cs
        if isPaddedNumber digits then text s
        else match floatOfText? s with
          | some x => float x
          | none => text s

/-- Numbers of more than 128 bits are read as floats; those between 64 and 128 bits are nothing that
a document can hold. -/
def heldInteger? (n : Int) : Option Document :=
  if -9223372036854775808 ≤ n ∧ n < 18446744073709551616 then some (integer n)
  else if -170141183460469231731687303715884105728 ≤ n ∧
      n < 340282366920938463463374607431768211456 then none
  else (floatOfText? (toString n)).map float

def heldPlain? (s : String) : Option Document :=
  match ofPlain s with
  | integer n => heldInteger? n
  | d => some d

/-- What a written scalar is if nothing particular is asked of it. None if its tag lies. -/
def resolve? (s : Scalar.Written) : Option Document :=
  match s.tag with
  | some tag =>
    if tag == boolTag then (boolOfText? s.text).map bool
    else if tag == intTag then integerOfText? s.text >>= heldInteger?
    else if tag == floatTag then (floatOfText? s.text).map float
    else if tag == nullTag then if isNullText s.text then some null else none
    else if tag.startsWith "!" then none
    else some (text s.text)
  | none => if s.plain then heldPlain? s.text else some (text s.text)

def isAbsent : Document → Bool
  | null => true
  | written s =>
    match s.tag with
    | some tag => s.plain && tag == nullTag && isNullText s.text
    | none => s.plain && (s.text.isEmpty || isNullText s.text)
  | _ => false

/-- Marked as null without being it. -/
def isFalseNull : Document → Bool
  | written s => s.plain && s.tag == some nullTag && !isNullText s.text
  | _ => false

def isEmptyPlain : Document → Bool
  | written s => s.plain && s.text.isEmpty
  | _ => false

def text? : Document → Option String
  | text s => some s
  | written s => some s.text
  | _ => none

def natural? : Document → Option Nat
  | integer n => if n < 0 then none else some n.toNat
  | written s => if typed intTag s then naturalOfText? s.text else none
  | _ => none

def bool? : Document → Option Bool
  | bool b => some b
  | written s => if typed boolTag s then boolOfText? s.text else none
  | _ => none

/-- Only for values without untyped scalars. -/
def float? : Document → Option Float
  | float x => some x
  | integer n =>
    some (if n < 0 then -Number.nearest n.natAbs 1 else Number.nearest n.toNat 1)
  | written s => if typed floatTag s then floatOfText? s.text else none
  | _ => none

mutual

def resolved? : Document → Option Document
  | written s => resolve? s
  | list p items => (resolvedItems? items).map (list p)
  | map entries => (resolvedEntries? entries).map map
  | tagged _ _ => none
  | d => some d

def resolvedItems? : List Document → Option (List Document)
  | [] => some []
  | d :: ds => do return (← resolved? d) :: (← resolvedItems? ds)

def resolvedEntries? : List (Document × Document) → Option (List (Document × Document))
  | [] => some []
  | (k, d) :: rest => do return (← resolved? k, ← resolved? d) :: (← resolvedEntries? rest)

end

end Document

end Resilience
