import Resilience.Task

/-! One call of a task in progress. A call is what the layers it has entered wait for, down to the
invocation of the innermost work; starting and resuming it run until it has to wait again. -/

namespace Resilience

inductive Call (β ι ε : Type) where
  | working (state : ι)
  | timed (caller inner : Context) (deadline : Nat) (after : Duration) (call : Call β ι ε)
  /-- Waiting for a token; the layers `rest` come after it. -/
  | queueing (limiter : Nat) (context : Context) (wake : Nat) (rest : List (Layer ε)) (body : β)
  | admitted (breaker : Nat) (guard : Guard) (call : Call β ι ε)
  /-- Inside an attempt; `left` more are possible before the attempt counter is at its end. -/
  | attempting (policy : RetryPolicy ε) (context : Context) (left : Nat) (rest : List (Layer ε))
      (body : β) (call : Call β ι ε)
  | pausing (policy : RetryPolicy ε) (context : Context) (left : Nat) (wake : Nat)
      (rest : List (Layer ε)) (body : β)
  | observed (observer : Observer ε) (call : Call β ι ε)

namespace Call

variable {β ι ε : Type}

abbrev Step (β ι ε : Type) := Progress (Call β ι ε) × World ε

def cancelled (r : Reason) : Outcome := .error (.cancelled r)

def lastAttempt : Nat := 4294967295

inductive Queue where
  | served
  | failed (failure : Failure)
  | wait (wake : Nat)

def queue (limiter : Nat) (x : Context) (w : World ε) : Queue × World ε :=
  match w.err x with
  | some r => (.failed (.cancelled r), w)
  | none =>
    match w.request limiter with
    | (.taken, w) => (.served, w)
    | (.refused d, w) => (.failed (.rateLimited d), w)
    | (.wait d, w) => (.wait (w.clock.wake d), w)

inductive Pause where
  | elapsed
  | ended (reason : Reason)
  | wait (wake : Nat)

def pause (x : Context) (d : Duration) (a : Ambient ε) : Pause :=
  match a.err x with
  | some r => .ended r
  | none => if d.isZero then .elapsed else .wait (a.clock.wake d)

/-- Looks at a wait again. The end of the context goes first. -/
def repause (x : Context) (wake : Nat) (a : Ambient ε) : Pause :=
  match a.noticed x with
  | some r => .ended r
  | none => if a.clock.passed wake then .elapsed else .wait wake

inductive Verdict where
  | finish (outcome : Outcome)
  | crash (crash : Crash)
  | retry (after : Duration)

/-- The policy is not asked once the context is done. -/
def verdict (p : RetryPolicy ε) (x : Context) (attempt : Nat) (e : Failure) (w : World ε) :
    Verdict × World ε :=
  match w.err x with
  | some r => (.finish (cancelled r), w)
  | none =>
    let (decision, notes) := p.decide w.now attempt e w.notes
    let verdict := match decision with
      | .error c => .crash c
      | .ok .abort => .finish (.error e)
      | .ok .exhausted => .finish (.error (.exhausted attempt e))
      | .ok (.retry after) => .retry after
    (verdict, { w with notes })

/-- Goes on after an attempt has given up the thread. `again` makes the next attempt; without it the
attempt numbers are at their end and a retry counts as exhausted. -/
def afterAttempt (p : RetryPolicy ε) (x : Context) (left : Nat) (rest : List (Layer ε)) (body : β)
    (again : Option (World ε → Step β ι ε)) : Step β ι ε → Step β ι ε
  | (.pending c, w) => (.pending (.attempting p x left rest body c), w)
  | (.crashed c, w) => (.crashed c, w)
  | (.done (.ok _), w) => (.done (.ok ()), w)
  | (.done (.error e), w) =>
    let attempt := lastAttempt - left
    match verdict p x attempt e w with
    | (.finish r, w) => (.done r, w)
    | (.crash c, w) => (.crashed c, w)
    | (.retry after, w) =>
      match again with
      | none => (.done (.error (.exhausted attempt e)), w)
      | some again =>
        match pause x after w.toAmbient with
        | .elapsed => again w
        | .ended r => (.done (cancelled r), w)
        | .wait wake => (.pending (.pausing p x (left - 1) wake rest body), w)

/-- Attempts from the one after which `left` more are possible. -/
def attempts (p : RetryPolicy ε) (x : Context) (rest : List (Layer ε)) (body : β)
    (once : World ε → Step β ι ε) : Nat → World ε → Step β ι ε
  | 0, w => afterAttempt p x 0 rest body none (once w)
  | left + 1, w =>
    afterAttempt p x (left + 1) rest body (some (attempts p x rest body once left)) (once w)

def further (p : RetryPolicy ε) (x : Context) (rest : List (Layer ε)) (body : β)
    (once : World ε → Step β ι ε) : Nat → Option (World ε → Step β ι ε)
  | 0 => none
  | left + 1 => some (attempts p x rest body once left)

/-- Goes on after a call under a timeout has given up the thread. A cancellation for the layer's own
deadline is its timeout, unless the caller's context is done too. -/
def afterTimed (caller inner : Context) (deadline : Nat) (after : Duration) :
    Step β ι ε → Step β ι ε
  | (.pending c, w) => (.pending (.timed caller inner deadline after c), w)
  | (.done (.error (.cancelled .deadlineExceeded)), w) =>
    if (w.err caller).isNone ∧ deadline ≤ w.now then (.done (.error (.timedOut after)), w)
    else (.done (cancelled .deadlineExceeded), w)
  | s => s

def afterAdmitted (breaker : Nat) (guard : Guard) : Step β ι ε → Step β ι ε
  | (.pending c, w) => (.pending (.admitted breaker guard c), w)
  | (.crashed c, w) => (.crashed c, w.settle breaker guard .abandoned)
  | (.done r, w) => (.done r, w.settle breaker guard (Breaker.settlementOf r))

def afterObserved (o : Observer ε) : Step β ι ε → Step β ι ε
  | (.pending c, w) => (.pending (.observed o c), w)
  | (.done r, w) => (.done r, { w with notes := o.after w.now w.notes })
  | s => s

variable (work : Work β ι ε)

def start : List (Layer ε) → β → Context → World ε → Step β ι ε
  | [], body, x, w =>
    let (p, w) := w.onAmbient (work.start body x)
    (p.map .working, w)
  | .timeout after :: rest, body, x, w =>
    match w.err x with
    | some r => (.done (cancelled r), w)
    | none =>
      match w.clock.deadline? after with
      | none => (.crashed .deadlineOverflow, w)
      | some deadline =>
        let (inner, w) := w.onAmbient (·.withDeadline x deadline)
        afterTimed x inner deadline after (start rest body inner w)
  | .limiter id :: rest, body, x, w =>
    match queue id x w with
    | (.served, w) => start rest body x w
    | (.failed e, w) => (.done (.error e), w)
    | (.wait wake, w) => (.pending (.queueing id x wake rest body), w)
  | .breaker id :: rest, body, x, w =>
    match w.enter id with
    | (.ok guard, w) => afterAdmitted id guard (start rest body x w)
    | (.error e, w) => (.done (.error e), w)
  | .retry p :: rest, body, x, w =>
    attempts p x rest body (start rest body x) (lastAttempt - 1) w
  | .observe o :: rest, body, x, w =>
    afterObserved o (start rest body x { w with notes := o.before w.now w.notes })

def drop : Call β ι ε → World ε → World ε
  | working s, w => (w.onAmbient fun a => ((), work.abandon s a)).2
  | timed _ _ _ _ c, w => drop c w
  | queueing .., w => w
  | admitted breaker guard c, w => (drop c w).settle breaker guard .abandoned
  | attempting _ _ _ _ _ c, w => drop c w
  | pausing .., w => w
  | observed _ c, w => drop c w

def cut (inner : Context) (c : Call β ι ε) (w : World ε) : World ε :=
  ((drop work c w).onAmbient fun a => ((), a.cancel inner)).2

def resume : Call β ι ε → World ε → Step β ι ε
  | working s, w =>
    let (p, w) := w.onAmbient (work.resume s)
    (p.map .working, w)
  | timed caller inner deadline after c, w =>
    match w.noticed caller with
    | some r => (.done (cancelled r), cut work inner c w)
    | none =>
      if w.clock.passed deadline then (.done (.error (.timedOut after)), cut work inner c w)
      else afterTimed caller inner deadline after (resume c w)
  | queueing limiter x wake rest body, w =>
    match repause x wake w.toAmbient with
    | .ended r => (.done (cancelled r), w)
    | .wait _ => (.pending (.queueing limiter x wake rest body), w)
    | .elapsed =>
      match queue limiter x w with
      | (.served, w) => start work rest body x w
      | (.failed e, w) => (.done (.error e), w)
      | (.wait wake, w) => (.pending (.queueing limiter x wake rest body), w)
  | admitted breaker guard c, w => afterAdmitted breaker guard (resume c w)
  | attempting p x left rest body c, w =>
    afterAttempt p x left rest body (further p x rest body (start work rest body x) left)
      (resume c w)
  | pausing p x left wake rest body, w =>
    match repause x wake w.toAmbient with
    | .ended r => (.done (cancelled r), w)
    | .wait _ => (.pending (.pausing p x left wake rest body), w)
    | .elapsed => attempts p x rest body (start work rest body x) left w
  | observed o c, w => afterObserved o (resume c w)

def pauseReady (x : Context) (wake : Nat) (a : Ambient ε) : Bool :=
  (a.noticed x).isSome || a.clock.passed wake

def ready : Call β ι ε → Ambient ε → Bool
  | working s, a => work.ready s a
  | timed caller _ deadline _ c, a => pauseReady caller deadline a || ready c a
  | queueing _ x wake _ _, a => pauseReady x wake a
  | admitted _ _ c, a => ready c a
  | attempting _ _ _ _ _ c, a => ready c a
  | pausing _ x _ wake _ _, a => pauseReady x wake a
  | observed _ c, a => ready c a

def timers : Call β ι ε → List Nat
  | working s => work.timers s
  | timed caller _ deadline _ c => deadline :: caller.timers ++ timers c
  | queueing _ x wake _ _ => wake :: x.timers
  | admitted _ _ c => timers c
  | attempting _ _ _ _ _ c => timers c
  | pausing _ x _ wake _ _ => wake :: x.timers
  | observed _ c => timers c

def ofTask (t : Task β ε) (x : Context) (w : World ε) : Step β ι ε :=
  start work t.layers t.body x w

end Call

end Resilience
