/-! Gates: a fixed number of permits, handed out in the order of requests. A permit that is given
back goes to the first in line at once, even before that one looks. -/

namespace Resilience

structure Gate where
  free : Nat
  waiting : List Nat := []
  /-- Those whose permit has been set aside for them. -/
  handed : List Nat := []
deriving Inhabited, DecidableEq

namespace Gate

def maxPermits : Nat := 2305843009213693951

def request (g : Gate) (who : Nat) : Bool × Gate :=
  if 0 < g.free then (true, { g with free := g.free - 1 })
  else (false, { g with waiting := g.waiting ++ [who] })

def release (g : Gate) : Gate :=
  match g.waiting with
  | [] => { g with free := g.free + 1 }
  | who :: rest => { g with waiting := rest, handed := g.handed ++ [who] }

def accept (g : Gate) (who : Nat) : Gate := { g with handed := g.handed.erase who }

/-- Leaves the line; a permit set aside goes to the next. -/
def leave (g : Gate) (who : Nat) : Gate :=
  if g.handed.contains who then (g.accept who).release
  else { g with waiting := g.waiting.erase who }

end Gate

end Resilience
