import Resilience.Blank
import Resilience.Duration

/-! Durations as phrases such as `1h 30m`. A phrase is a row of numbers, each followed by a unit;
one number may have a fraction if that is a whole number of the unit's parts. The printed form
splits a duration into years, months, days, hours and so on, and leaves out what is zero. -/

namespace Resilience

inductive PhraseError where
  | empty
  | numberExpected (offset : Nat)
  | invalidCharacter (offset : Nat)
  | unitNeeded (number : Nat)
  | unknownUnit (name : String)
  | outOfRange
  | carry
deriving DecidableEq

namespace PhraseError

def message : PhraseError → String
  | empty => "value was empty"
  | numberExpected offset => "expected number at " ++ toString offset
  | invalidCharacter offset => "invalid character at " ++ toString offset
  | unitNeeded n =>
    "time unit needed, for example " ++ toString n ++ "sec or " ++ toString n ++ "ms"
  | unknownUnit name =>
    "unknown time unit \"" ++ name ++ "\", supported units: ns, us/µs, ms, sec, min, hours, " ++
      "days, weeks, months, years (and few variations)"
  | outOfRange =>
    "number is too large or cannot be represented without a lack of precision " ++
      "(values below 1ns are not supported)"
  | carry => "overflow in Duration::new"

end PhraseError

namespace Phrase

def word : Nat := 18446744073709551616
def second : Nat := 1000000000
def minute : Nat := 60 * second
def hour : Nat := 3600 * second
def day : Nat := 86400 * second
def month : Nat := 2630016 * second
def year : Nat := 31557600 * second

def unit? : String → Option Nat
  | "nanos" | "nsec" | "ns" => some 1
  | "usec" | "us" | "µs" => some 1000
  | "millis" | "msec" | "ms" => some 1000000
  | "seconds" | "second" | "secs" | "sec" | "s" => some second
  | "minutes" | "minute" | "min" | "mins" | "m" => some minute
  | "hours" | "hour" | "hr" | "hrs" | "h" => some hour
  | "days" | "day" | "d" => some day
  | "weeks" | "week" | "wk" | "wks" | "w" => some (7 * day)
  | "months" | "month" | "M" => some month
  | "years" | "year" | "yr" | "yrs" | "y" => some year
  | _ => none

def fits (n : Nat) : Except PhraseError Nat :=
  if n < word then .ok n else .error .outOfRange

def add (total : Duration) (secs nanos : Nat) : Except PhraseError Duration := do
  let nanos ← fits (total.subsecNanos + nanos)
  let secs ← if nanos > second then fits (secs + nanos / second) else pure secs
  let nanos := if nanos > second then nanos % second else nanos
  let secs ← fits (total.seconds + secs)
  match Duration.ofNanos? (secs * second + nanos) with
  | some d => pure d
  | none => throw .carry

structure Fraction where
  numerator : Nat
  denominator : Nat

/-- A whole number of parts of length `size`, as seconds and nanoseconds. Parts below a second
are counted in nanoseconds, longer ones in seconds. -/
def whole (n size : Nat) : Except PhraseError (Nat × Nat) := do
  if size < second then return (0, ← fits (n * size))
  else return (← fits (n * (size / second)), 0)

/-- Minutes and shorter units are divided into nanoseconds, longer ones into seconds. -/
def part (f : Fraction) (size : Nat) : Except PhraseError (Nat × Nat) := do
  if size = 1 then throw .outOfRange
  let grain := if size ≤ minute then 1 else second
  let n ← fits (f.numerator * (size / grain))
  if n % f.denominator ≠ 0 then throw .outOfRange
  let n := n / f.denominator
  return if grain = 1 then (0, n) else (n, 0)

def addTerm (total : Duration) (n : Nat) (f : Option Fraction) (unit : List Char) :
    Except PhraseError Duration := do
  let some size := unit? (String.ofList unit) |
    throw (if unit.isEmpty then .unitNeeded n else .unknownUnit (String.ofList unit))
  let (secs, nanos) ← whole n size
  let total ← add total secs nanos
  match f with
  | none => return total
  | some f =>
    let (secs, nanos) ← part f size
    add total secs nanos

inductive Position where
  /-- Before a number; blanks since `since`. -/
  | gap (total : Duration) (since : Nat) (first : Bool)
  | number (total : Duration) (n : Nat)
  | fraction (total : Duration) (n : Nat) (f : Fraction) (last : Nat)
  | unit (total : Duration) (n : Nat) (f : Option Fraction) (letters : List Char)

def isUnitLetter (c : Char) : Bool := c.isAlpha || c == 'µ'

def digit (c : Char) : Nat := c.toNat - '0'.toNat

def Position.next (offset : Nat) (c : Char) : Position → Except PhraseError Position
  | gap total since first =>
    if c.isDigit then pure (number total (digit c))
    else if isBlank c then pure (gap total since first)
    else throw (.numberExpected since)
  | number total n =>
    if c.isDigit then do
      let m ← fits (n * 10)
      pure (number total (← fits (m + digit c)))
    else if isBlank c then pure (number total n)
    else if isUnitLetter c then pure (unit total n none [c])
    else if c == '.' then pure (fraction total n ⟨0, 1⟩ offset)
    else throw (.invalidCharacter offset)
  | fraction total n f last =>
    if c.isDigit then do
      let denominator ← fits (f.denominator * 10)
      let numerator ← fits (f.numerator * 10)
      let numerator ← fits (numerator + digit c)
      pure (fraction total n ⟨numerator, denominator⟩ (offset + 1))
    else if isBlank c then pure (fraction total n f (offset + c.utf8Size))
    else if isUnitLetter c && f.denominator != 1 then pure (unit total n (some f) [c])
    else throw (.invalidCharacter last)
  | unit total n f letters =>
    if c.isDigit then do pure (number (← addTerm total n f letters) (digit c))
    else if isBlank c then do
      pure (gap (← addTerm total n f letters) (offset + c.utf8Size) false)
    else if isUnitLetter c then pure (unit total n f (letters ++ [c]))
    else throw (.invalidCharacter offset)

def Position.finish : Position → Except PhraseError Duration
  | gap total _ first => if first then throw .empty else pure total
  | number total n => addTerm total n none []
  | fraction total n f last =>
    if f.denominator = 1 then throw (.invalidCharacter last) else addTerm total n (some f) []
  | unit total n f letters => addTerm total n f letters

def read : Position → Nat → List Char → Except PhraseError Duration
  | p, _, [] => p.finish
  | p, offset, c :: rest => do read (← p.next offset c) (offset + c.utf8Size) rest

def parse (text : String) : Except PhraseError Duration :=
  if text == "0" then pure .zero else read (.gap .zero 0 true) 0 text.toList

def named (n : Nat) (name : String) : List String :=
  if n = 0 then [] else [toString n ++ name]

def plural (n : Nat) (name : String) : List String :=
  if n > 1 then [toString n ++ name ++ "s"] else named n name

def parts (d : Duration) : List String :=
  let secs := d.seconds
  let nanos := d.subsecNanos
  let inYear := secs % 31557600
  let inMonth := inYear % 2630016
  let inDay := inMonth % 86400
  plural (secs / 31557600) "year" ++ plural (inYear / 2630016) "month" ++
    plural (inMonth / 86400) "day" ++ named (inDay / 3600) "h" ++ named (inDay % 3600 / 60) "m" ++
    named (inDay % 60) "s" ++ named (nanos / 1000000) "ms" ++ named (nanos / 1000 % 1000) "us" ++
    named (nanos % 1000) "ns"

def print (d : Duration) : String :=
  if d.isZero then "0s" else " ".intercalate (parts d)

end Phrase

end Resilience
