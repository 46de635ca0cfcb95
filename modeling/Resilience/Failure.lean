import Resilience.Duration

namespace Resilience

inductive Reason where
  | cancelled
  | deadlineExceeded
deriving DecidableEq

def Reason.message : Reason → String
  | cancelled => "context cancelled"
  | deadlineExceeded => "deadline exceeded"

/-- A failure of a task's own: its text, and the texts of what caused it, nearest cause first. -/
structure Report where
  message : String
  causes : List String := []
deriving DecidableEq

def Report.cause? : Report → Option Report
  | ⟨_, []⟩ => none
  | ⟨_, message :: causes⟩ => some { message, causes }

theorem Report.length_of_cause? {r s : Report} (h : r.cause? = some s) :
    r.causes.length = s.causes.length + 1 := by
  obtain ⟨_, _ | ⟨message, causes⟩⟩ := r
  · cases h
  · cases h
    rfl

inductive Failure where
  | invalid (message : String)
  | cancelled (reason : Reason)
  | timedOut (after : Duration)
  | rateLimited (retryAfter : Duration)
  | circuitOpen (retryAfter : Duration)
  | exhausted (attempts : Nat) (last : Failure)
  | failed (report : Report)
  /-- A launched task ended without a report. -/
  | aborted
deriving DecidableEq

abbrev Outcome := Except Failure Unit

inductive Cause where
  | failure (f : Failure)
  | reported (report : Report)
deriving DecidableEq

namespace Failure

def fail (message : String) : Failure := failed { message }

def message : Failure → String
  | invalid message => "Invalid policy configuration: " ++ message
  | cancelled reason => "Task cancelled: " ++ reason.message
  | timedOut after => "Task timed out after " ++ after.brief
  | rateLimited retryAfter => "Rate limit exceeded, next token in " ++ retryAfter.brief
  | circuitOpen retryAfter => "Circuit breaker is open, retry in " ++ retryAfter.brief
  | exhausted attempts last =>
    "Maximum retry attempts (" ++ toString attempts ++ ") exceeded. Last error: " ++ last.message
  | failed report => report.message
  | aborted => "Task ended without reporting a result"

def cause? : Failure → Option Cause
  | exhausted _ last => some (.failure last)
  | failed report => report.cause?.map .reported
  | _ => none

def depth : Failure → Nat
  | exhausted _ last => last.depth + 1
  | failed report => report.causes.length
  | _ => 0

/-- Like `message`, but a task's own failure shows all its causes. -/
def messageWithCauses : Failure → String
  | failed report => ": ".intercalate (report.message :: report.causes)
  | f => f.message

def kind : Failure → String
  | invalid _ => "validation"
  | cancelled .cancelled => "cancelled"
  | cancelled .deadlineExceeded => "deadline_exceeded"
  | timedOut _ => "timeout"
  | rateLimited _ => "rate_limited"
  | circuitOpen _ => "circuit_open"
  | exhausted _ _ => "retry_exhausted"
  | failed _ => "failed"
  | aborted => "aborted"

def isCancelled : Failure → Bool
  | cancelled _ => true
  | _ => false

def isRetryable : Failure → Bool
  | invalid _ | cancelled _ => false
  | _ => true

def retryDelay? : Failure → Option Duration
  | rateLimited retryAfter | circuitOpen retryAfter => some retryAfter
  | _ => none

def rootCause : Failure → Failure
  | exhausted _ last => last.rootCause
  | f => f

def unwrap : Failure → Failure
  | exhausted _ last => last.unwrap
  | f => f

end Failure

namespace Cause

def message : Cause → String
  | failure f => f.message
  | reported report => report.message

def cause? : Cause → Option Cause
  | failure f => f.cause?
  | reported report => report.cause?.map .reported

def depth : Cause → Nat
  | failure f => f.depth
  | reported report => report.causes.length

theorem depth_of_cause? {c d : Cause} (h : c.cause? = some d) : c.depth = d.depth + 1 := by
  cases c with
  | reported report =>
    obtain ⟨r, hr, rfl⟩ := Option.map_eq_some_iff.mp h
    exact Report.length_of_cause? hr
  | failure f =>
    cases f with
    | exhausted attempts last =>
      cases h
      rfl
    | failed report =>
      obtain ⟨r, hr, rfl⟩ := Option.map_eq_some_iff.mp h
      exact Report.length_of_cause? hr
    | _ => cases h

/-- The errors below this one, nearest first: each is the cause of the one before. -/
def below (c : Cause) : List Cause :=
  match _ : c.cause? with
  | none => []
  | some d => d :: d.below
termination_by c.depth
decreasing_by exact Nat.lt_of_succ_le (Nat.le_of_eq (depth_of_cause? ‹_›).symm)

theorem below_of_cause? {c d : Cause} (h : c.cause? = some d) : c.below = d :: d.below := by
  rw [below]
  split <;> simp_all

end Cause

namespace Failure

def causes (f : Failure) : List Cause := (Cause.failure f).below

def sources (f : Failure) : List String := f.causes.map Cause.message

end Failure

end Resilience
