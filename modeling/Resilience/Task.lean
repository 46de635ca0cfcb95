import Resilience.PolicyStack
import Resilience.Text
import Resilience.World

/-! Tasks: some innermost work under layers of policies. A task is only a description; each call
of it is a computation of its own. -/

namespace Resilience

structure Observer (ε : Type) where
  before : (now : Nat) → ε → ε
  after : (now : Nat) → ε → ε

inductive Layer (ε : Type) where
  | timeout (after : Duration)
  | limiter (id : Nat)
  | breaker (id : Nat)
  | retry (policy : RetryPolicy ε)
  | observe (observer : Observer ε)

structure Task (β ε : Type) where
  name : String
  /-- Outermost first. -/
  layers : List (Layer ε)
  body : β

namespace Task

variable {β ε : Type}

def ofBody (name : String) (body : β) : Task β ε := ⟨name, [], body⟩

def debugName (name : String) : String :=
  "Task \x7b name: " ++ Text.quote name ++ " \x7d"

def rename (t : Task β ε) (name : String) : Task β ε := { t with name }

def wrap (t : Task β ε) (l : Layer ε) : Task β ε := { t with layers := l :: t.layers }

/-- A budget of no attempts leaves the task as it is. -/
def retry (t : Task β ε) (p : RetryPolicy ε) : Task β ε :=
  if p.budget = some 0 then t else t.wrap (.retry p)

def timeout (t : Task β ε) (after : Duration) : Except Failure (Task β ε) :=
  if after.isZero then .error (.invalid "timeout must be greater than zero")
  else .ok (t.wrap (.timeout after))

def wrapIf {α : Type} (t : Task β ε) (part : Option α) (f : α → Layer ε) : Task β ε :=
  match part with
  | some a => t.wrap (f a)
  | none => t

/-- The layers of a pipeline, innermost first: attempt timeout, limiter, breaker, retry, timeout.
The limiter and the breaker go by their places in the world. -/
def under (t : Task β ε) (p : Pipeline) (limiter breaker : Option Nat)
    (draw : ε → Float × ε) : Task β ε :=
  let t := t.wrapIf p.attemptTimeout .timeout
  let t := t.wrapIf limiter .limiter
  let t := t.wrapIf breaker .breaker
  let t := match p.retry with
    | some r => t.retry (r.policy draw)
    | none => t
  t.wrapIf p.timeout .timeout

end Task

inductive Progress (φ : Type) where
  | done (outcome : Outcome)
  | crashed (crash : Crash)
  | pending (rest : φ)

def Progress.map {φ ψ : Type} (f : φ → ψ) : Progress φ → Progress ψ
  | done r => done r
  | crashed c => crashed c
  | pending s => pending (f s)

/-- The innermost work of tasks. `β` describes a piece of work, `ι` is one invocation of it that
waits for something. -/
structure Work (β ι ε : Type) where
  start : β → Context → Ambient ε → Progress ι × Ambient ε
  resume : ι → Ambient ε → Progress ι × Ambient ε
  abandon : ι → Ambient ε → Ambient ε
  ready : ι → Ambient ε → Bool
  timers : ι → List Nat

end Resilience
