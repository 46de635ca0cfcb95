import Resilience.Clock
import Resilience.Failure

/-! Contexts: cancellation that spreads from parents to children, and deadlines that only get
earlier on the way down. A token carries its ancestry; the cancelled ones are listed apart. -/

namespace Resilience

structure Token where
  id : Nat
  ancestors : List Nat
deriving DecidableEq

def Token.lineage (t : Token) : List Nat := t.id :: t.ancestors

structure Cancellation where
  fresh : Nat := 0
  cancelled : List Nat := []
deriving Inhabited

namespace Cancellation

def isCancelled (c : Cancellation) (t : Token) : Bool := t.lineage.any c.cancelled.contains

def root (c : Cancellation) : Token × Cancellation :=
  (⟨c.fresh, []⟩, { c with fresh := c.fresh + 1 })

def child (c : Cancellation) (t : Token) : Token × Cancellation :=
  (⟨c.fresh, t.lineage⟩, { c with fresh := c.fresh + 1 })

def cancel (c : Cancellation) (t : Token) : Cancellation :=
  if c.cancelled.contains t.id then c else { c with cancelled := t.id :: c.cancelled }

@[simp] theorem isCancelled_cancel (c : Cancellation) (t u : Token) :
    (c.cancel t).isCancelled u = (c.isCancelled u || u.lineage.contains t.id) := by
  unfold cancel isCancelled
  split <;> rename_i h
  · rw [Bool.eq_iff_iff]
    simp_all only [List.contains_eq_mem, decide_eq_true_eq, List.any_eq_true, Bool.or_eq_true]
    grind
  · rw [Bool.eq_iff_iff]
    simp only [List.any_eq_true, List.contains_eq_mem, decide_eq_true_eq, List.mem_cons,
      Bool.or_eq_true]
    grind

end Cancellation

structure Context where
  token : Token
  deadline : Option Nat := none
deriving DecidableEq

namespace Context

/-- Why the context is done now, if it is. Cancellation goes first. -/
def err (x : Context) (k : Clock) (c : Cancellation) : Option Reason :=
  if c.isCancelled x.token then some .cancelled
  else match x.deadline with
    | some d => if d ≤ k.now then some .deadlineExceeded else none
    | none => none

/-- What a wait for the end of the context has noticed: it goes by timers, not by the clock. -/
def noticed (x : Context) (k : Clock) (c : Cancellation) : Option Reason :=
  if c.isCancelled x.token then some .cancelled
  else match x.deadline with
    | some d => if k.passed d then some .deadlineExceeded else none
    | none => none

def earlier (x : Context) (d : Nat) : Nat :=
  match x.deadline with
  | some own => if own ≤ d then own else d
  | none => d

def background (c : Cancellation) : Context × Cancellation :=
  let (t, c) := c.root
  ({ token := t }, c)

def child (x : Context) (c : Cancellation) : Context × Cancellation :=
  let (t, c) := c.child x.token
  ({ token := t, deadline := x.deadline }, c)

def withDeadline (x : Context) (d : Nat) (c : Cancellation) : Context × Cancellation :=
  let (t, c) := c.child x.token
  ({ token := t, deadline := some (x.earlier d) }, c)

def timers (x : Context) : List Nat := x.deadline.toList

theorem err_of_noticed {x : Context} {k : Clock} {c : Cancellation} {r : Reason}
    (h : x.noticed k c = some r) : x.err k c = some r := by
  unfold noticed at h
  unfold err
  split
  · simp_all
  · rename_i hc
    rw [if_neg hc] at h
    split at h <;> rename_i d hd
    · split at h <;> rename_i hp
      · have := Clock.le_now_of_passed hp
        simp_all
      · simp at h
    · simp at h

end Context

end Resilience
