/-! Ways in which a computation stops without a result. A crash is not an error value: it unwinds
the task it happens in. -/

namespace Resilience

inductive Crash where
  /-- The end of a wait lies beyond the last representable instant. -/
  | deadlineOverflow
  | tooManyPermits
  | alreadyTaken
  | delayOverflow
  | durationCarry
  | jitterOverflow
  | raised (message : String)
deriving DecidableEq

def Crash.message : Crash → String
  | deadlineOverflow => "overflow when adding duration to instant"
  | tooManyPermits => "a semaphore may not have more than MAX_PERMITS permits (2305843009213693951)"
  | alreadyTaken => "called after complete"
  | delayOverflow => "overflow when multiplying duration by scalar"
  | durationCarry => "overflow in Duration::new"
  | jitterOverflow => "cannot convert float seconds to Duration: value is either too big or NaN"
  | raised message => message

end Resilience
