import Resilience.Blank
import Resilience.Duration.Phrase
import Resilience.Executor
import Resilience.PolicyStack

namespace Resilience

inductive LogLevel where
  | error
  | warn
  | info
  | debug
  | trace
deriving DecidableEq

inductive LogFormat where
  | json
  | text
  | compact
  | pretty
deriving DecidableEq

namespace LogLevel

def name : LogLevel → String
  | error => "error"
  | warn => "warn"
  | info => "info"
  | debug => "debug"
  | trace => "trace"

def ofName? : String → Option LogLevel
  | "error" => some error
  | "warn" => some warn
  | "info" => some info
  | "debug" => some debug
  | "trace" => some trace
  | _ => none

end LogLevel

namespace LogFormat

def name : LogFormat → String
  | json => "json"
  | text => "text"
  | compact => "compact"
  | pretty => "pretty"

def ofName? : String → Option LogFormat
  | "json" => some json
  | "text" => some text
  | "compact" => some compact
  | "pretty" => some pretty
  | _ => none

end LogFormat

/-- Lower case for comparison with names. Letters beyond ASCII stay as they are: the Kelvin sign is
the only one with an ASCII letter for its lower case, and no name has a `k`. -/
def lower (s : String) : String := String.ofList (s.toList.map Char.toLower)

def LogLevel.parse (s : String) : Except String LogLevel :=
  let t := lower s
  match if t = "warning" then some warn else ofName? t with
  | some l => .ok l
  | none => .error ("Invalid log level: " ++ s)

def LogFormat.parse (s : String) : Except String LogFormat :=
  match ofName? (lower s) with
  | some f => .ok f
  | none => .error ("Invalid log format: " ++ s)

structure LoggingConfig where
  level : LogLevel := .info
  format : LogFormat := .text
  directives : List String := []
  includeLocation : Bool := false
deriving DecidableEq, Inhabited

def LoggingConfig.filter (c : LoggingConfig) : String :=
  ",".intercalate (c.level.name :: c.directives)

structure Settings where
  policies : PolicyStack := {}
  execution : ExecutorConfig := {}
  logging : LoggingConfig := {}
deriving Inhabited, BEq

inductive SettingsError where
  | unreadable
  | malformed
  | contradiction (message : String)
  | environment (message : String)
  | domain (name message : String)
deriving DecidableEq

def SettingsError.message : SettingsError → String
  | unreadable => "Failed to read config file"
  | malformed => "Failed to parse config"
  | contradiction message => "Invalid configuration: " ++ message
  | environment message => "Environment variable error: " ++ message
  | domain name message => "Domain configuration error in " ++ name ++ ": " ++ message

class Amount (α : Type) where
  isNothing : α → Bool
  shown : α → String

instance : Amount Nat := ⟨(· == 0), toString⟩
instance : Amount Int := ⟨fun n => n ≤ 0, toString⟩
instance : Amount Float := ⟨fun x => x ≤ 0, Number.plain⟩
instance : Amount String := ⟨String.isEmpty, id⟩

def checkPositive {α : Type} [Amount α] (domain field : String) (a : α) :
    Except SettingsError Unit :=
  if Amount.isNothing a then
    .error (.domain domain (field ++ " must be greater than 0, got " ++ Amount.shown a))
  else .ok ()

def checkPart {α : Type} (part : Option α) (check : α → Except SettingsError Unit) :
    Except SettingsError Unit :=
  match part with
  | some a => check a
  | none => .ok ()

def PolicyStack.check (s : PolicyStack) : Except SettingsError Unit := do
  checkPart s.rateLimit fun r => do
    checkPositive "policies" "rate_limit.rate.count" r.rate.count.toNat
    checkPart r.burst fun n => checkPositive "policies" "rate_limit.burst" n.toNat
  checkPart s.circuitBreaker fun c =>
    checkPositive "policies" "circuit_breaker.failure_threshold" c.failureThreshold.toNat
  s.validate.mapError fun f => .domain "policies" f.message

def ExecutorConfig.check (c : ExecutorConfig) : Except SettingsError Unit :=
  checkPart c.maxConcurrency fun n => checkPositive "execution" "max_concurrency" n.toNat

def validDirective (s : String) : Bool := !s.isEmpty && !s.toList.any isBlank

def LoggingConfig.check (c : LoggingConfig) : Except SettingsError Unit :=
  match c.directives.find? fun d => !validDirective d with
  | some d => .error (.domain "logging" ("invalid filter directive '" ++ d ++ "'"))
  | none => .ok ()

def PolicyStack.checkTimeouts (s : PolicyStack) : Except SettingsError Unit :=
  match s.attemptTimeout, s.timeout with
  | some attempt, some total =>
    if total < attempt then
      .error (.contradiction ("policies.attempt_timeout (" ++ Phrase.print attempt ++
        ") exceeds policies.timeout (" ++ Phrase.print total ++ ")"))
    else .ok ()
  | _, _ => .ok ()

def Settings.check (s : Settings) : Except SettingsError Unit := do
  s.policies.check
  s.execution.check
  s.logging.check
  s.policies.checkTimeouts

def Settings.sample : Settings where
  policies := .recommended
  execution := { maxConcurrency := some 64 }

end Resilience
