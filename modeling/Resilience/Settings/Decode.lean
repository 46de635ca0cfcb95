import Resilience.Document
import Resilience.Settings.Basic

/-! Settings out of documents. Records may leave out fields that have a default and may hold fields
that nobody knows; a known field must not come twice. -/

namespace Resilience

inductive DecodeError where
  | malformed
  | crash (crash : Crash)
deriving DecidableEq

abbrev Decoded (α : Type) := Except DecodeError α

namespace Document

def orMalformed {α : Type} : Option α → Decoded α
  | some a => .ok a
  | none => .error .malformed

abbrev Fields := List (String × Document)

/-- The field a key stands for; some formats count fields. -/
def fieldName? (names : List String) : Document → Option String
  | .integer n => if n < 0 then none else some (names.getD n.toNat "")
  | d => d.text?

def known (names : List String) : List (Document × Document) → Fields → Decoded Fields
  | [], found => .ok found
  | (key, d) :: rest, found => do
    let name ← orMalformed (fieldName? names key)
    if names.contains name then
      if found.any (·.1 == name) then throw .malformed
      known names rest (found ++ [(name, d)])
    else known names rest found

def byPosition (names : List String) (items : List Document) : Decoded Fields :=
  if names.length < items.length then .error .malformed else .ok (names.zip items)

/-- The fields of a record. Nothing at all is a record without fields. -/
def fields (names : List String) : Document → Decoded Fields
  | .map entries => known names entries []
  | .tagged _ (.map entries) => known names entries []
  | .list true items => byPosition names items
  | d => if d.isEmptyPlain then .ok [] else .error .malformed

def Fields.get {α : Type} (fs : Fields) (name : String) (default : α)
    (decode : Document → Decoded α) : Decoded α :=
  match fs.lookup name with
  | some d => decode d
  | none => .ok default

def Fields.need {α : Type} (fs : Fields) (name : String) (decode : Document → Decoded α) :
    Decoded α :=
  match fs.lookup name with
  | some d => decode d
  | none => .error .malformed

/-- Text under the tag of null must be null. -/
def option {α : Type} (decode : Document → Decoded α) (d : Document) : Decoded (Option α) :=
  if d.isAbsent then .ok none
  else if d.isFalseNull then .error .malformed
  else some <$> decode d

def word32 (d : Document) : Decoded UInt32 := do
  let n ← orMalformed d.natural?
  if n < 4294967296 then return n.toUInt32 else throw .malformed

def word64 (d : Document) : Decoded UInt64 := do
  let n ← orMalformed d.natural?
  if n < 18446744073709551616 then return n.toUInt64 else throw .malformed

def flag (d : Document) : Decoded Bool := orMalformed d.bool?

def phrase (d : Document) : Decoded Duration := do
  let s ← orMalformed d.text?
  match Phrase.parse s with
  | .ok d => return d
  | .error .carry => throw (.crash .durationCarry)
  | .error _ => throw .malformed

def itemsOf : Document → Decoded (List Document)
  | .list _ items => .ok items
  | .tagged _ (.list _ items) => .ok items
  | d => if d.isEmptyPlain then .ok [] else .error .malformed

/-- A choice among names. A tag of one's own without a value, or a map from the name to null, may
stand for the name. -/
def choice {α : Type} (ofName? : String → Option α) (d : Document) : Decoded α :=
  match d with
  | .written s =>
    match s.tag with
    | some tag =>
      if tag.startsWith "!" then
        if s.plain && (s.text.isEmpty || isNullText s.text) then
          orMalformed (ofName? (tag.drop 1).toString)
        else .error .malformed
      else orMalformed (ofName? s.text)
    | none => orMalformed (ofName? s.text)
  | .map [(.text name, .null)] => orMalformed (ofName? name)
  | _ => orMalformed (d.text? >>= ofName?)

end Document

open Document

def variantOf : Document → Decoded (String × Document)
  | .map entries => do
    let isTag (e : Document × Document) : Bool := e.1.text? == some "type"
    match entries.filter isTag with
    | [(_, tag)] => return (← orMalformed tag.text?, .map (entries.filter fun e => !isTag e))
    | _ => throw .malformed
  | .list _ (tag :: rest) => do return (← orMalformed tag.text?, .list true rest)
  | _ => .error .malformed

/-- A variant without fields ignores the fields of a map. -/
def noFields {α : Type} (a : α) : Document → Decoded α
  | .map _ | .list _ [] => .ok a
  | _ => .error .malformed

def Strategy.decode (d : Document) : Decoded (Strategy Float) := do
  let (variant, rest) ← variantOf (← orMalformed d.resolved?)
  match variant with
  | "fixed" => noFields .fixed rest
  | "linear" => noFields .linear rest
  | "fibonacci" => noFields .fibonacci rest
  | "exponential" =>
    let fs ← fields ["base"] rest
    return .exponential (← fs.need "base" fun d => orMalformed d.float?)
  | "custom" =>
    let fs ← fields ["delays_ms"] rest
    return .custom (← fs.need "delays_ms" fun d => do (← itemsOf d).mapM word64)
  | _ => throw .malformed

def BackoffPolicy.decode (d : Document) : Decoded (BackoffPolicy Float) := do
  let fs ← fields ["max_attempts", "initial_delay", "max_delay", "backoff_strategy", "jitter"] d
  let base := BackoffPolicy.standard
  return {
    maxAttempts := ← fs.get "max_attempts" base.maxAttempts word32
    initialDelay := ← fs.get "initial_delay" base.initialDelay phrase
    maxDelay := ← fs.get "max_delay" base.maxDelay phrase
    strategy := ← fs.get "backoff_strategy" base.strategy Strategy.decode
    jitter := ← fs.get "jitter" base.jitter flag }

def Rate.decode (d : Document) : Decoded Rate := do
  let fs ← fields ["count", "per"] d
  return { count := ← fs.need "count" word32, per := ← fs.need "per" phrase }

def RateLimit.decode (d : Document) : Decoded RateLimit := do
  let fs ← fields ["rate", "burst", "max_wait"] d
  return {
    rate := ← fs.need "rate" Rate.decode
    burst := ← fs.get "burst" none (option word32)
    maxWait := ← fs.get "max_wait" none (option phrase) }

def BreakerConfig.decode (d : Document) : Decoded BreakerConfig := do
  let fs ← fields ["failure_threshold", "open_duration"] d
  let base : BreakerConfig := {}
  return {
    failureThreshold := ← fs.get "failure_threshold" base.failureThreshold word32
    openDuration := ← fs.get "open_duration" base.openDuration phrase }

def PolicyStack.decode (d : Document) : Decoded PolicyStack := do
  let fs ← fields ["retry", "timeout", "attempt_timeout", "rate_limit", "circuit_breaker"] d
  return {
    retry := ← fs.get "retry" none (option BackoffPolicy.decode)
    timeout := ← fs.get "timeout" none (option phrase)
    attemptTimeout := ← fs.get "attempt_timeout" none (option phrase)
    rateLimit := ← fs.get "rate_limit" none (option RateLimit.decode)
    circuitBreaker := ← fs.get "circuit_breaker" none (option BreakerConfig.decode) }

def ExecutorConfig.decode (d : Document) : Decoded ExecutorConfig := do
  let fs ← fields ["max_concurrency"] d
  return { maxConcurrency := ← fs.get "max_concurrency" none (option word64) }

def LoggingConfig.decode (d : Document) : Decoded LoggingConfig := do
  let fs ← fields ["level", "format", "directives", "include_location"] d
  let base : LoggingConfig := {}
  return {
    level := ← fs.get "level" base.level (choice LogLevel.ofName?)
    format := ← fs.get "format" base.format (choice LogFormat.ofName?)
    directives := ← fs.get "directives" base.directives fun d => do
      (← itemsOf d).mapM fun d => orMalformed d.text?
    includeLocation := ← fs.get "include_location" base.includeLocation flag }

def Settings.decode (d : Document) : Decoded Settings := do
  let fs ← fields ["policies", "execution", "logging"] d
  return {
    policies := ← fs.get "policies" {} PolicyStack.decode
    execution := ← fs.get "execution" {} ExecutorConfig.decode
    logging := ← fs.get "logging" {} LoggingConfig.decode }

end Resilience
