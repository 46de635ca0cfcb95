import Resilience.Machine

/-! Waiting for a machine from outside. Whoever waits is looked at before the jobs are; when nothing
can run any more, the clock moves to the next timer. -/

namespace Resilience

inductive Wait (β ι ε : Type) where
  | until (wake : Nat)
  | pause (context : Context) (wake : Nat)
  | ending (context : Context)
  | under (context : Context) (wake : Nat)
  | call (call : Call β ι ε) (cutoff : Option Nat)
  | completion (job : Nat)
  | completionUnder (job : Nat) (context : Context)
  /-- All results, in the order of the list; those that have arrived are kept. -/
  | all (slots : List (Nat × Option Outcome))
  /-- All results in the order of arrival, each with its place in the list. -/
  | each (pending : List (Nat × Nat)) (arrived : List (Nat × Nat × Outcome))

inductive Reply where
  | unit
  | reason (reason : Reason)
  | outcome (outcome : Outcome)
  | givenUp
  | outcomes (outcomes : List Outcome)
  | arrivals (arrivals : List (Nat × Nat × Outcome))
  | crash (crash : Crash)

abbrev Looked (β ι ε : Type) := (Wait β ι ε ⊕ Reply) × Machine β ι ε

namespace Wait

variable {β ι ε : Type}

def ofPause (x : Context) (m : Machine β ι ε) : Call.Pause → Looked β ι ε
  | .elapsed => (.inr (.outcome (.ok ())), m)
  | .ended r => (.inr (.outcome (Call.cancelled r)), m)
  | .wait wake => (.inl (.pause x wake), m)

def ofProgress (cutoff : Option Nat) (m : Machine β ι ε) :
    Progress (Call β ι ε) → Looked β ι ε
  | .done r => (.inr (.outcome r), m)
  | .crashed c => (.inr (.crash c), m)
  | .pending c => (.inl (.call c cutoff), m)

def ofResult (w : Wait β ι ε) (m : Machine β ι ε) :
    Option (Except Crash Outcome) → Looked β ι ε
  | none => (.inl w, m)
  | some (.ok r) => (.inr (.outcome r), m)
  | some (.error c) => (.inr (.crash c), m)

def fill (m : Machine β ι ε) :
    List (Nat × Option Outcome) → Except Crash (List (Nat × Option Outcome)) × Machine β ι ε
  | [] => (.ok [], m)
  | (i, some r) :: rest =>
    let (slots, m) := fill m rest
    (slots.map ((i, some r) :: ·), m)
  | (i, none) :: rest =>
    match m.takeResult i with
    | (some (.error c), m) => (.error c, m)
    | (r, m) =>
      let (slots, m) := fill m rest
      (slots.map ((i, r.bind Except.toOption) :: ·), m)

def arrival (m : Machine β ι ε) (i : Nat) : Nat :=
  match (m.job i).delivery with
  | .arrived _ order => order
  | _ => 0

def collect (m : Machine β ι ε) :
    List (Nat × Nat) → List (Nat × Nat × Outcome) →
      Except Crash (List (Nat × Nat × Outcome)) × Machine β ι ε
  | [], arrived => (.ok arrived, m)
  | (place, i) :: rest, arrived =>
    match m.takeResult i with
    | (some (.error c), m) => (.error c, m)
    | (some (.ok r), m) => collect m rest (arrived ++ [(place, m.now, r)])
    | (none, m) => collect m rest arrived

def lookEach (m : Machine β ι ε) (pending : List (Nat × Nat)) (here : List (Nat × Nat))
    (arrived : List (Nat × Nat × Outcome)) : Looked β ι ε :=
  match collect m here arrived with
  | (.error c, m) => (.inr (.crash c), m)
  | (.ok arrived, m) =>
    if pending.isEmpty then (.inr (.arrivals arrived), m) else (.inl (.each pending arrived), m)

variable (work : Work β ι ε)

def look : Wait β ι ε → Machine β ι ε → Looked β ι ε
  | .until wake, m => if m.clock.passed wake then (.inr .unit, m) else (.inl (.until wake), m)
  | .pause x wake, m => ofPause x m (Call.repause x wake m.toAmbient)
  | .ending x, m =>
    match m.noticed x with
    | some r => (.inr (.reason r), m)
    | none => (.inl (.ending x), m)
  | .under x wake, m =>
    match m.noticed x with
    | some r => (.inr (.outcome (Call.cancelled r)), m)
    | none => if m.clock.passed wake then (.inr .unit, m) else (.inl (.under x wake), m)
  | .call c cutoff, m =>
    match m.onWorld (c.resume work) with
    | (.pending c, m) =>
      if cutoff.any m.clock.passed then
        let (_, m) := m.onWorld fun w => ((), c.drop work w)
        (.inr .givenUp, m)
      else (.inl (.call c cutoff), m)
    | (p, m) => ofProgress cutoff m p
  | .completion i, m =>
    let (r, m) := m.takeResult i
    ofResult (.completion i) m r
  | .completionUnder i x, m =>
    match m.noticed x with
    | some r => (.inr (.outcome (Call.cancelled r)), m)
    | none =>
      let (r, m) := m.takeResult i
      ofResult (.completionUnder i x) m r
  | .all slots, m =>
    match fill m slots with
    | (.error c, m) => (.inr (.crash c), m)
    | (.ok slots, m) =>
      if slots.all (·.2.isSome) then (.inr (.outcomes (slots.filterMap (·.2))), m)
      else (.inl (.all slots), m)
  | .each pending arrived, m =>
    let here := pending.filter fun p => m.hasResult p.2
    let sorted := here.mergeSort fun a b => arrival m a.2 ≤ arrival m b.2
    lookEach m (pending.filter fun p => !m.hasResult p.2) sorted arrived

def ready : Wait β ι ε → Machine β ι ε → Bool
  | .until wake, m => m.clock.passed wake
  | .pause x wake, m => Call.pauseReady x wake m.toAmbient
  | .ending x, m => (m.noticed x).isSome
  | .under x wake, m => Call.pauseReady x wake m.toAmbient
  | .call c cutoff, m => c.ready work m.toAmbient || cutoff.any m.clock.passed
  | .completion i, m => m.hasResult i
  | .completionUnder i x, m => (m.noticed x).isSome || m.hasResult i
  | .all slots, m => slots.any fun s => s.2.isNone && m.hasResult s.1
  | .each pending _, m => pending.any fun p => m.hasResult p.2

def timers : Wait β ι ε → List Nat
  | .until wake => [wake]
  | .pause x wake => wake :: x.timers
  | .ending x => x.timers
  | .under x wake => wake :: x.timers
  | .call c cutoff => c.timers work ++ cutoff.toList
  | .completionUnder _ x => x.timers
  | .completion _ | .all _ | .each .. => []

def drop : Wait β ι ε → Machine β ι ε → Machine β ι ε
  | .call c _, m => (m.onWorld fun w => ((), c.drop work w)).2
  | _, m => m

def moveOn (limit : Nat) (s : Wait β ι ε) (m : Machine β ι ε) : Machine β ι ε :=
  let later := (s.timers work ++ m.timers work).filter fun t => !m.clock.passed t
  { m with clock := m.clock.jump (Instant.ceilTick (later.foldl min limit)) }

/-- Waits until `limit`. The jobs run, then the waiting side looks; if neither can do anything the
clock moves on, and the waiting side looks first. -/
def rounds (limit : Nat) : Nat → Wait β ι ε → Machine β ι ε → Option Reply × Machine β ι ε
  | 0, s, m => (none, s.drop work m)
  | fuel + 1, s, m =>
    let m := m.run work Machine.patience
    let idle := !s.ready work m
    if idle && m.clock.passed limit then (none, s.drop work m)
    else
      let m := if idle then moveOn work limit s m else m
      if s.ready work m then
        match s.look work m with
        | (.inr r, m) => (some r, m)
        | (.inl s, m) => rounds limit fuel s m
      else rounds limit fuel s m

/-- A year of 365 days in nanoseconds. -/
def longestWait : Nat := 31536000000000000

def finishBy (limit : Nat) (start : Looked β ι ε) : Option Reply × Machine β ι ε :=
  match start with
  | (.inr r, m) => (some r, m)
  | (.inl s, m) => s.rounds work limit Machine.patience m

def finish (start : Looked β ι ε) : Option Reply × Machine β ι ε :=
  finishBy work (start.2.now + longestWait) start

end Wait

namespace Machine

variable {β ι ε : Type} (work : Work β ι ε)

def call (m : Machine β ι ε) (t : Task β ε) (x : Context) (cutoff : Option Nat) :
    Looked β ι ε :=
  let (p, m) := m.onWorld (Call.ofTask work t x)
  Wait.ofProgress cutoff m p

def sleepUnder (m : Machine β ι ε) (x : Context) (d : Duration) : Looked β ι ε :=
  Wait.ofPause x m (Call.pause x d m.toAmbient)

/-- Waits for a completion under a context; a finished context is noticed before anything else. -/
def waitUnder (m : Machine β ι ε) (i : Nat) (x : Context) : Looked β ι ε :=
  match m.err x with
  | some r => (.inr (.outcome (Call.cancelled r)), m)
  | none => (Wait.completionUnder i x).look work m

def joinAll (m : Machine β ι ε) (is : List Nat) : Looked β ι ε :=
  (Wait.all (is.map (·, none))).look work m

/-- Results that are there at once come in the order of the list. -/
def joinUnordered (m : Machine β ι ε) (is : List Nat) : Looked β ι ε :=
  let places := is.mapIdx (fun place i => (place, i))
  Wait.lookEach m (places.filter fun p => !m.hasResult p.2)
    (places.filter fun p => m.hasResult p.2) []

end Machine

end Resilience
