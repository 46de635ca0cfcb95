import Resilience.Document
import Resilience.Settings.Basic

namespace Resilience

namespace Document

def entry (name : String) (d : Document) : Document × Document := (.text name, d)

def record (fields : List (Document × Document)) : Document := .map fields

def optional {α : Type} (name : String) (a : Option α) (f : α → Document) :
    List (Document × Document) :=
  match a with
  | some a => [entry name (f a)]
  | none => []

def natural (n : Nat) : Document := .integer n

def duration (d : Duration) : Document := .text (Phrase.print d)

end Document

open Document

def Strategy.encode : Strategy Float → Document
  | .fixed => record [entry "type" (.text "fixed")]
  | .linear => record [entry "type" (.text "linear")]
  | .exponential base => record [entry "type" (.text "exponential"), entry "base" (.float base)]
  | .fibonacci => record [entry "type" (.text "fibonacci")]
  | .custom millis =>
    record [entry "type" (.text "custom"),
      entry "delays_ms" (.list true (millis.map fun m => natural m.toNat))]

def BackoffPolicy.encode (p : BackoffPolicy Float) : Document :=
  record [entry "max_attempts" (natural p.maxAttempts.toNat),
    entry "initial_delay" (duration p.initialDelay),
    entry "max_delay" (duration p.maxDelay),
    entry "backoff_strategy" p.strategy.encode,
    entry "jitter" (.bool p.jitter)]

def Rate.encode (r : Rate) : Document :=
  record [entry "count" (natural r.count.toNat), entry "per" (duration r.per)]

def RateLimit.encode (c : RateLimit) : Document :=
  record ([entry "rate" c.rate.encode] ++
    optional "burst" c.burst (fun n => natural n.toNat) ++ optional "max_wait" c.maxWait duration)

def BreakerConfig.encode (c : BreakerConfig) : Document :=
  record [entry "failure_threshold" (natural c.failureThreshold.toNat),
    entry "open_duration" (duration c.openDuration)]

def PolicyStack.encode (s : PolicyStack) : Document :=
  record (optional "retry" s.retry BackoffPolicy.encode ++ optional "timeout" s.timeout duration ++
    optional "attempt_timeout" s.attemptTimeout duration ++
    optional "rate_limit" s.rateLimit RateLimit.encode ++
    optional "circuit_breaker" s.circuitBreaker BreakerConfig.encode)

def ExecutorConfig.encode (c : ExecutorConfig) : Document :=
  record (optional "max_concurrency" c.maxConcurrency fun n => natural n.toNat)

def LoggingConfig.encode (c : LoggingConfig) : Document :=
  record ([entry "level" (.text c.level.name), entry "format" (.text c.format.name)] ++
    (if c.directives.isEmpty then []
      else [entry "directives" (.list true (c.directives.map .text))]) ++
    [entry "include_location" (.bool c.includeLocation)])

def Settings.encode (s : Settings) : Document :=
  record [entry "policies" s.policies.encode, entry "execution" s.execution.encode,
    entry "logging" s.logging.encode]

end Resilience
