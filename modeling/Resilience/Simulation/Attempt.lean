import Resilience.Call

namespace Resilience

structure Attempt where
  latency : Duration
  fail : Bool
deriving DecidableEq, Inhabited

structure Simulated where
  context : Context
  wake : Nat
  fail : Bool

namespace Simulated

variable {ε : Type}

def injected : Failure := .fail "injected failure"

def verdict (fail : Bool) : Outcome := if fail then .error injected else .ok ()

def start (attempt : Attempt) (x : Context) (a : Ambient ε) : Progress Simulated :=
  match Call.pause x attempt.latency a with
  | .elapsed => .done (verdict attempt.fail)
  | .ended r => .done (Call.cancelled r)
  | .wait wake => .pending ⟨x, wake, attempt.fail⟩

def resume (s : Simulated) (a : Ambient ε) : Progress Simulated :=
  match Call.repause s.context s.wake a with
  | .elapsed => .done (verdict s.fail)
  | .ended r => .done (Call.cancelled r)
  | .wait _ => .pending s

def ready (s : Simulated) (a : Ambient ε) : Bool := Call.pauseReady s.context s.wake a

def timers (s : Simulated) : List Nat := s.wake :: s.context.timers

def work (draw : ε → Attempt × ε) : Work Unit Simulated ε where
  start _ x a :=
    let (attempt, notes) := draw a.notes
    let a := { a with notes }
    (start attempt x a, a)
  resume s a := (resume s a, a)
  abandon _ a := a
  ready := ready
  timers := timers

end Simulated

end Resilience
