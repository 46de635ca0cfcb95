import Resilience.Settings.Basic
import Resilience.Text.Alphanumeric

/-! Log filters: directives with commas between them. A directive is a target, a span in brackets
with or without fields, or both, and a level may follow it after an equals sign. -/

namespace Resilience.LogFilter

def levelNames : List String := ["error", "warn", "info", "debug", "trace", "off"]

def isLevelNumber (cs : List Char) : Bool :=
  let digits := match cs with
    | '+' :: rest => rest
    | _ => cs
  !digits.isEmpty && digits.all Char.isDigit && Number.natOfDigits digits ≤ 5

/-- No text stands for the finest level. -/
def isLevel (cs : List Char) : Bool :=
  cs.isEmpty || isLevelNumber cs || levelNames.contains (lower (String.ofList cs))

def startsTarget (c : Char) : Bool :=
  c == '-' || c == ':' || c == '_' || Text.isAlphanumeric c

def endsSpan : List Char → Bool
  | [] => true
  | '=' :: level => isLevel level
  | _ => false

def endsFields (nonempty : Bool) : List Char → Bool
  | '\x7d' :: rest =>
    match rest with
    | ']' :: rest => nonempty && endsSpan rest
    | _ => false
  | _ :: rest => endsFields true rest
  | [] => false

def isSpan : List Char → Bool
  | ']' :: rest => endsSpan rest
  | '\x7b' :: rest => endsFields false rest
  | _ :: rest => isSpan rest
  | [] => false

def isTarget : List Char → Bool
  | [] => true
  | '=' :: level => isLevel level
  | '[' :: rest => isSpan rest
  | _ :: rest => isTarget rest

def isDirective : List Char → Bool
  | '[' :: rest => isSpan rest
  | c :: rest => startsTarget c && isTarget rest
  | [] => false

/-- Nothing may stand between two commas. -/
def isValid (filter : String) : Bool :=
  (filter.splitOn ",").all fun part => part.isEmpty || isDirective part.toList

end Resilience.LogFilter

namespace Resilience

def LoggingConfig.checkFilter (c : LoggingConfig) : Except String Unit :=
  if LogFilter.isValid c.filter then .ok () else .error ("Invalid log filter '" ++ c.filter ++ "'")

end Resilience
