import Resilience.Breaker
import Resilience.Bucket
import Resilience.Context

/-! What concurrent calls share: the clock, the cancelled tokens, limiters and breakers, and the
notes `ε` that tasks and policies keep for themselves. -/

namespace Resilience

/-- The part of the world that a task's own work can see and change. -/
structure Ambient (ε : Type) where
  clock : Clock
  cancellation : Cancellation
  notes : ε

namespace Ambient

variable {ε : Type}

def now (a : Ambient ε) : Nat := a.clock.now

def err (a : Ambient ε) (x : Context) : Option Reason := x.err a.clock a.cancellation

def noticed (a : Ambient ε) (x : Context) : Option Reason := x.noticed a.clock a.cancellation

def cancel (a : Ambient ε) (x : Context) : Ambient ε :=
  { a with cancellation := a.cancellation.cancel x.token }

def withDeadline (a : Ambient ε) (x : Context) (d : Nat) : Context × Ambient ε :=
  let (y, c) := x.withDeadline d a.cancellation
  (y, { a with cancellation := c })

def child (a : Ambient ε) (x : Context) : Context × Ambient ε :=
  let (y, c) := x.child a.cancellation
  (y, { a with cancellation := c })

def background (a : Ambient ε) : Context × Ambient ε :=
  let (y, c) := Context.background a.cancellation
  (y, { a with cancellation := c })

def record (a : Ambient ε) (f : ε → ε) : Ambient ε := { a with notes := f a.notes }

end Ambient

structure World (ε : Type) extends Ambient ε where
  limiters : Array (Limiter Float)
  breakers : Array Breaker

namespace World

variable {ε : Type}

def onAmbient {α : Type} (w : World ε) (f : Ambient ε → α × Ambient ε) : α × World ε :=
  let (a, s) := f w.toAmbient
  (a, { w with toAmbient := s })

def limiter (w : World ε) (i : Nat) : Limiter Float := w.limiters.getD i default
def breaker (w : World ε) (i : Nat) : Breaker := w.breakers.getD i default

def request (w : World ε) (i : Nat) : Grant × World ε :=
  let (g, l) := (w.limiter i).request w.now
  (g, { w with limiters := w.limiters.setIfInBounds i l })

def enter (w : World ε) (i : Nat) : Except Failure Guard × World ε :=
  let (g, b) := (w.breaker i).enter w.now
  (g, { w with breakers := w.breakers.setIfInBounds i b })

def settle (w : World ε) (i : Nat) (g : Guard) (s : Settlement) : World ε :=
  { w with breakers := w.breakers.setIfInBounds i ((w.breaker i).settle g s w.now) }

end World

end Resilience
