import Resilience.Breaker
import Resilience.Bucket
import Resilience.Retry

/-! The policies around a task as one configuration value. Building a stack checks every section
and creates the limiter and the breaker that all tasks of the resulting pipeline share. -/

namespace Resilience

structure PolicyStack where
  retry : Option (BackoffPolicy Float) := none
  timeout : Option Duration := none
  attemptTimeout : Option Duration := none
  rateLimit : Option RateLimit := none
  circuitBreaker : Option BreakerConfig := none
deriving BEq

structure Pipeline where
  retry : Option (BackoffPolicy Float)
  timeout : Option Duration
  attemptTimeout : Option Duration
  limiter : Option (Limiter Float)
  breaker : Option Breaker

namespace PolicyStack

instance : Inhabited PolicyStack := ⟨{}⟩

def recommended : PolicyStack where
  retry := some .standard
  timeout := some (.ofSecs 30)
  attemptTimeout := some (.ofSecs 10)
  rateLimit := some { rate := .perSecond 50, burst := some 100, maxWait := some (.ofSecs 5) }
  circuitBreaker := some {}

def isEmpty (s : PolicyStack) : Bool :=
  s.retry.isNone && s.timeout.isNone && s.attemptTimeout.isNone && s.rateLimit.isNone &&
    s.circuitBreaker.isNone

def checkSection {α : Type} (part : Option α) (validate : α → Except Failure Unit) :
    Except Failure Unit :=
  match part with
  | some a => validate a
  | none => .ok ()

def checkTimeout (name : String) (d : Duration) : Except Failure Unit :=
  if d.isZero then .error (.invalid (name ++ " must be greater than zero")) else .ok ()

def validate (s : PolicyStack) : Except Failure Unit := do
  checkSection s.retry BackoffPolicy.validate
  checkSection s.timeout (checkTimeout "timeout")
  checkSection s.attemptTimeout (checkTimeout "attempt_timeout")
  checkSection s.rateLimit RateLimit.validate
  checkSection s.circuitBreaker BreakerConfig.validate

def build (s : PolicyStack) (now : Nat) : Except Failure Pipeline := do
  s.validate
  let limiter ← s.rateLimit.mapM (Limiter.ofConfig · now)
  let breaker ← s.circuitBreaker.mapM Breaker.ofConfig
  return {
    retry := s.retry
    timeout := s.timeout
    attemptTimeout := s.attemptTimeout
    limiter := limiter
    breaker := breaker }

end PolicyStack

end Resilience
