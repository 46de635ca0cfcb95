import Resilience.Settings.Decode
import Resilience.Settings.Encode
import Resilience.Yaml.Node
import Resilience.Yaml.Print

/-! Loading settings: a document, or the defaults without one, then what the environment sets, then
the check. -/

namespace Resilience

abbrev Environment := String → Option String

inductive LoadError where
  | refused (error : SettingsError)
  | crash (crash : Crash)
deriving DecidableEq

abbrev Loaded (α : Type) := Except LoadError α

inductive IntegerFault where
  | empty
  | invalidDigit
  | tooLarge
deriving DecidableEq

namespace IntegerFault

def message : IntegerFault → String
  | empty => "cannot parse integer from empty string"
  | invalidDigit => "invalid digit found in string"
  | tooLarge => "number too large to fit in target type"

end IntegerFault

/-- Reads digits up to a bound. The first fault from the left counts. -/
def readDigits (bound : Nat) (n : Nat) : List Char → Except IntegerFault Nat
  | [] => .ok n
  | c :: rest =>
    if !c.isDigit then .error .invalidDigit
    else
      let n := n * 10 + Phrase.digit c
      if bound < n then .error .tooLarge else readDigits bound n rest

def readInteger (bound : Nat) (s : String) : Except IntegerFault Nat :=
  match s.toList with
  | [] => .error .empty
  | ['+'] => .error .invalidDigit
  | '+' :: rest => readDigits bound 0 rest
  | cs => readDigits bound 0 cs

def readWord32 (s : String) : Except IntegerFault UInt32 :=
  (readInteger 4294967295 s).map Nat.toUInt32

def readWord64 (s : String) : Except IntegerFault UInt64 :=
  (readInteger 18446744073709551615 s).map Nat.toUInt64

structure Loader where
  /-- The first part of the names of all variables. -/
  family : String := "BULWARK"

namespace Loader

def get (l : Loader) (env : Environment) (name : String) : Option String :=
  env (l.family ++ "_" ++ name)

def invalid (name why : String) : LoadError :=
  .refused (.environment ("Invalid " ++ name ++ ": " ++ why))

def override (l : Loader) (env : Environment) (name : String)
    (change : Settings → String → Loaded Settings) (s : Settings) : Loaded Settings :=
  match l.get env name with
  | some value => change s value
  | none => .ok s

def setLevel (s : Settings) (value : String) : Loaded Settings :=
  match LogLevel.parse value with
  | .ok level => .ok { s with logging.level := level }
  | .error _ => .error (invalid "LOG_LEVEL" value)

def setFormat (s : Settings) (value : String) : Loaded Settings :=
  match LogFormat.parse value with
  | .ok format => .ok { s with logging.format := format }
  | .error _ => .error (invalid "LOG_FORMAT" value)

def setMaxConcurrency (s : Settings) (value : String) : Loaded Settings :=
  match readWord64 value with
  | .ok n => .ok { s with execution.maxConcurrency := some n }
  | .error e => .error (invalid "MAX_CONCURRENCY" e.message)

def setTimeout (s : Settings) (value : String) : Loaded Settings :=
  match Phrase.parse value with
  | .ok d => .ok { s with policies.timeout := some d }
  | .error .carry => .error (.crash .durationCarry)
  | .error e => .error (invalid "TIMEOUT" e.message)

def setMaxAttempts (s : Settings) (value : String) : Loaded Settings :=
  match readWord32 value with
  | .ok n =>
    let section_ := s.policies.retry.getD .standard
    .ok { s with policies.retry := some { section_ with maxAttempts := n } }
  | .error e => .error (invalid "RETRY_MAX_ATTEMPTS" e.message)

def overrideAll (l : Loader) (env : Environment) (s : Settings) : Loaded Settings := do
  let s ← l.override env "LOG_LEVEL" setLevel s
  let s ← l.override env "LOG_FORMAT" setFormat s
  let s ← l.override env "MAX_CONCURRENCY" setMaxConcurrency s
  let s ← l.override env "TIMEOUT" setTimeout s
  l.override env "RETRY_MAX_ATTEMPTS" setMaxAttempts s

def check (s : Settings) : Loaded Settings := do
  s.check.mapError .refused
  return s

def finish (l : Loader) (env : Environment) (s : Settings) : Loaded Settings := do
  check (← l.overrideAll env s)

def decode (d : Document) : Loaded Settings :=
  (Settings.decode d).mapError fun
    | .malformed => .refused .malformed
    | .crash c => .crash c

def ofEnvironment (l : Loader) (env : Environment) : Loaded Settings := l.finish env {}

def ofDocument (l : Loader) (env : Environment) (d : Document) : Loaded Settings := do
  l.finish env (← decode d)

def readDocument (text : String) : Loaded Document :=
  match Yaml.read? text with
  | some d => .ok d
  | none => .error (.refused .malformed)

def ofText (l : Loader) (env : Environment) (text : String) : Loaded Settings := do
  l.ofDocument env (← readDocument text)

def ofBytes (l : Loader) (env : Environment) (bytes : Option ByteArray) : Loaded Settings :=
  match bytes.bind String.fromUTF8? with
  | some text => l.ofText env text
  | none => .error (.refused .unreadable)

end Loader

def Settings.text (s : Settings) : String := Yaml.print s.encode

def Settings.survivesText (s : Settings) : Bool :=
  match Loader.readDocument s.text >>= Loader.decode with
  | .ok t => t == s
  | .error _ => false

end Resilience
