import Resilience.Scenario.Step

namespace Resilience.Scenario

abbrev Sim := Machine Body State Notes

structure Bench where
  machine : Sim
  limiters : List (String × Nat) := []
  breakers : List (String × Nat) := []
  guards : List (String × Nat × Guard) := []
  pipelines : List (String × Pipeline × Option Nat × Option Nat) := []
  tasks : List (String × Task Body Notes) := []
  /-- The gate of each executor, if it has one. -/
  executors : List (String × Option Nat) := []
  completions : List (String × Nat) := []

/-- The first body is the one that does nothing. -/
def emptyMachine : Sim where
  clock := .start
  cancellation := {}
  notes := { runs := #[0] }
  limiters := #[]
  breakers := #[]
  gates := #[]
  jobs := #[]
  deliveries := 0

namespace Bench

def onMachine {α : Type} (b : Bench) (f : Sim → α × Sim) : α × Bench :=
  let (a, machine) := f b.machine
  (a, { b with machine })

def contextNamed (b : Bench) (id : String) : Option Context := find? b.machine.notes.contexts id

def contextOr (b : Bench) (id : Option String) : Context × Bench :=
  match id.bind b.contextNamed with
  | some x => (x, b)
  | none => b.onMachine fun m => m.onAmbient (·.background)

def keepContext (b : Bench) (id : String) (x : Context) : Bench :=
  { b with machine.notes.contexts := put b.machine.notes.contexts id x }

def addLimiter (b : Bench) (l : Limiter Float) : Nat × Bench :=
  (b.machine.limiters.size, { b with machine.limiters := b.machine.limiters.push l })

def addBreaker (b : Bench) (br : Breaker) : Nat × Bench :=
  (b.machine.breakers.size, { b with machine.breakers := b.machine.breakers.push br })

def settle (b : Bench) : Bench := { b with machine := b.machine.settle work }

def now (b : Bench) : Nat := b.machine.now

def decorate (b : Bench) (t : Task Body Notes) : Decorator → Except Answer (Task Body Notes) × Bench
  | .retry patch =>
    match patch.policy with
    | .ok p => (.ok (t.retry (p.policy draw)), b)
    | .error c => (.error (.crash c), b)
  | .retryDefault => (.ok (t.retry (BackoffPolicy.standard.policy draw)), b)
  | .retryScript ds => (.ok (t.retry (scriptedPolicy ds)), b)
  | .timeout d => ((t.timeout d).mapError fun f => .outcome (.error f), b)
  | .rateLimit c =>
    match Limiter.ofConfig c b.now with
    | .error f => (.error (.outcome (.error f)), b)
    | .ok l =>
      let (i, b) := b.addLimiter l
      (.ok (t.wrap (.limiter i)), b)
  | .circuitBreaker c =>
    match Breaker.ofConfig c with
    | .error f => (.error (.outcome (.error f)), b)
    | .ok br =>
      let (i, b) := b.addBreaker br
      (.ok (t.wrap (.breaker i)), b)
  | .limiter id => (.ok (t.wrapIf (find? b.limiters id) .limiter), b)
  | .breaker id => (.ok (t.wrapIf (find? b.breakers id) .breaker), b)
  | .pipeline id =>
    match find? b.pipelines id with
    | some (p, l, br) => (.ok (t.under p l br draw), b)
    | none => (.ok t, b)
  | .rename name => (.ok (t.rename name), b)
  | .log tag => (.ok (t.wrap (.observe (logging tag))), b)

def decorateAll (b : Bench) (t : Task Body Notes) :
    List Decorator → Except Answer (Task Body Notes) × Bench
  | [] => (.ok t, b)
  | d :: ds =>
    match b.decorate t d with
    | (.ok t, b) => decorateAll b t ds
    | (.error a, b) => (.error a, b)

/-- A task that does nothing. Its runs are counted together with those of its like. -/
def silent (name : String) : Task Body Notes := .ofBody name (.simulated 0 [])

def taskNamed (b : Bench) (id : String) : Task Body Notes := (find? b.tasks id).getD (silent id)

def newBody (b : Bench) : Nat × Bench :=
  (b.machine.notes.runs.size, { b with machine.notes.runs := b.machine.notes.runs.push 0 })

def taskOf (b : Bench) : TaskSource → Task Body Notes × Bench
  | .script name label plans =>
    let (body, b) := b.newBody
    (.ofBody name (.script body label plans), b)
  | .derived of => (b.taskNamed of, b)
  | .simulated index attempts =>
    let (body, b) := b.newBody
    (.ofBody ("simulated-" ++ toString index) (.simulated body attempts), b)

def buildContext (b : Bench) : ContextSource → Except Crash Context × Bench
  | .background | .token =>
    let (x, b) := b.onMachine fun m => m.onAmbient (·.background)
    (.ok x, b)
  | .clone of =>
    let (x, b) := b.contextOr of
    (.ok x, b)
  | .child of =>
    let (x, b) := b.contextOr of
    let (y, b) := b.onMachine fun m => m.onAmbient (·.child x)
    (.ok y, b)
  | .deadline of instant =>
    let (x, b) := b.contextOr of
    if instant < Instant.horizon then
      let (y, b) := b.onMachine fun m => m.onAmbient (·.withDeadline x instant)
      (.ok y, b)
    else (.error .deadlineOverflow, b)
  | .timeout of after =>
    let (x, b) := b.contextOr of
    match b.machine.clock.deadline? after with
    | none => (.error .deadlineOverflow, b)
    | some d =>
      let (y, b) := b.onMachine fun m => m.onAmbient (·.withDeadline x d)
      (.ok y, b)

def await (b : Bench) (start : Sim → Looked Body State Notes) (answer : Reply → Answer) :
    Answer × Bench :=
  b.onMachine fun m =>
    match (Wait.finish work (start m)) with
    | (some (.crash c), m) => (.crash c, m)
    | (some r, m) => (answer r, m)
    | (none, m) => (.text "never", m)

def plainAnswer : Reply → Answer
  | .outcome r => .outcome r
  | .outcomes rs => .outcomes rs
  | .arrivals rs => .arrivals rs
  | .reason r => .text r.message
  | .crash c => .crash c
  | .givenUp => .text "dropped"
  | .unit => .nothing

def summarize : Reply → Answer
  | .outcomes rs => .summary (.ofOutcomes rs)
  | r => plainAnswer r

def callTask (b : Bench) (t : Task Body Notes) (x : Context) : Answer × Bench :=
  b.await (fun m => m.call work t x none) plainAnswer

def completionsOf (b : Bench) (ids : List String) : List Nat := ids.filterMap (find? b.completions)

def withoutCompletions (b : Bench) (ids : List String) : Bench :=
  { b with completions := b.completions.filter fun c => !ids.contains c.1 }

def gateOf (b : Bench) (executor : String) : Option Nat := (find? b.executors executor).join

def breakerAt (b : Bench) (id : String) : Breaker :=
  b.machine.breaker ((find? b.breakers id).getD b.machine.breakers.size)

def onLimiter {α : Type} (b : Bench) (id : String) (f : Limiter Float → α × Limiter Float) :
    α × Bench :=
  let i := (find? b.limiters id).getD b.machine.limiters.size
  let (a, l) := f (b.machine.limiter i)
  (a, { b with machine.limiters := b.machine.limiters.setIfInBounds i l })

def onBreaker (b : Bench) (i : Nat) (f : Breaker → Breaker) : Bench :=
  { b with machine.breakers := b.machine.breakers.setIfInBounds i (f (b.machine.breaker i)) }

def step (b : Bench) : Step → Answer × Bench
  | .advance d =>
    (.nothing, { b with machine.clock := (b.machine.clock.spend d).announce }.settle)
  | .wait d =>
    let (_, b) := b.await (fun m => (Wait.until (m.clock.wake d)).look work m) plainAnswer
    (.nothing, b.settle)
  | .settle => (.nothing, b.settle)
  | .context id source =>
    match b.buildContext source with
    | (.ok x, b) => (.ok, b.keepContext id x)
    | (.error c, b) => (.crash c, b)
  | .cancel id =>
    match b.contextNamed id with
    | some x =>
      let (_, b) := b.onMachine fun m => m.onAmbient fun a => ((), a.cancel x)
      (.nothing, b.settle)
    | none => (.nothing, b.settle)
  | .cancelAfter id after =>
    match b.contextNamed id with
    | some x =>
      (.nothing,
        { b with machine := b.machine.setAlarm (b.machine.clock.wake after) x }.settle)
    | none => (.nothing, b.settle)
  | .contextInfo id =>
    match b.contextNamed id with
    | some x => (.contextInfo (b.machine.err x) x.deadline, b)
    | none => (.nothing, b)
  | .contextSleep id d =>
    let (x, b) := b.contextOr id
    b.await (fun m => m.sleepUnder x d) plainAnswer
  | .contextDone id =>
    let (x, b) := b.contextOr (some id)
    b.await (fun m => (Wait.ending x).look work m) plainAnswer
  | .contextRun id d =>
    let (x, b) := b.contextOr id
    match b.machine.err x, d with
    | some r, _ => (.outcome (Call.cancelled r), b)
    | none, none => (.output, b)
    | none, some d =>
      b.await (fun m => (Wait.under x (m.clock.wake d)).look work m) fun
        | .unit => .output
        | r => plainAnswer r
  | .limiter id c =>
    match Limiter.ofConfig c b.now with
    | .error f => (.outcome (.error f), b)
    | .ok l =>
      let (i, b) := b.addLimiter l
      (.ok, { b with limiters := put b.limiters id i })
  | .limiterClone id of =>
    match find? b.limiters of with
    | some i => (.ok, { b with limiters := put b.limiters id i })
    | none => (.ok, b)
  | .tryAcquire id =>
    let (taken, b) := b.onLimiter id (·.tryAcquire b.now)
    (.flag taken, b)
  | .tokens id =>
    let (x, b) := b.onLimiter id (·.available b.now)
    (.number x, b)
  | .acquire id c =>
    let (x, b) := b.contextOr c
    b.callTask ((silent id).wrapIf (find? b.limiters id) .limiter) x
  | .breaker id c =>
    match Breaker.ofConfig c with
    | .error f => (.outcome (.error f), b)
    | .ok br =>
      let (i, b) := b.addBreaker br
      (.ok, { b with breakers := put b.breakers id i })
  | .breakerClone id of =>
    match find? b.breakers of with
    | some i => (.ok, { b with breakers := put b.breakers id i })
    | none => (.ok, b)
  | .state id => (.text (b.breakerAt id).state.text, b)
  | .breakerInfo id => (.breakerInfo (b.breakerAt id), b)
  | .reset id =>
    match find? b.breakers id with
    | some i => (.nothing, b.onBreaker i (·.reset b.now))
    | none => (.nothing, b)
  | .enter id guard =>
    let i := (find? b.breakers id).getD b.machine.breakers.size
    match b.onMachine fun m => m.onWorld (·.enter i) with
    | (.ok g, b) =>
      (.text (if g.admission = .trial then "trial" else "normal"),
        { b with guards := put b.guards guard (i, g) })
    | (.error f, b) => (.outcome (.error f), b)
  | .settleGuard guard s =>
    match find? b.guards guard with
    | some (i, g) =>
      (.nothing,
        { b.onBreaker i (·.settle g s b.now) with guards := b.guards.filter (·.1 != guard) })
    | none => (.nothing, b)
  | .breakerCall id task c =>
    let (x, b) := b.contextOr c
    b.callTask ((b.taskNamed task).wrapIf (find? b.breakers id) .breaker) x
  | .pipeline _ none => (.parseError, b)
  | .pipeline id (some stack) =>
    match stack.build b.now with
    | .error f => (.outcome (.error f), b)
    | .ok p =>
      let (l, b) := match p.limiter with
        | some l =>
          let (i, b) := b.addLimiter l
          (some i, { b with limiters := put b.limiters id i })
        | none => (none, b)
      let (br, b) := match p.breaker with
        | some br =>
          let (i, b) := b.addBreaker br
          (some i, { b with breakers := put b.breakers id i })
        | none => (none, b)
      (.ok, { b with pipelines := put b.pipelines id (p, l, br) })
  | .task id source decorators =>
    let (t, b) := b.taskOf source
    match b.decorateAll t decorators with
    | (.ok t, b) => (.ok, { b with tasks := put b.tasks id t })
    | (.error a, b) => (a, b)
  | .taskInfo id => (.taskInfo (b.taskNamed id).name, b)
  | .call id c dropAfter =>
    let (x, b) := b.contextOr c
    let began := b.now
    let (a, b) := b.await
      (fun m => m.call work (b.taskNamed id) x (dropAfter.map m.clock.wake)) plainAnswer
    match a with
    | .outcome r => (.called r (b.now - began), b)
    | a => (a, b)
  | .executor id c =>
    match c.validate with
    | .error e => (.error e.message, b)
    | .ok _ =>
      match c.gate with
      | .error e => (.crash e, b)
      | .ok none => (.ok, { b with executors := put b.executors id none })
      | .ok (some g) =>
        let i := b.machine.gates.size
        (.ok, { b with
          machine.gates := b.machine.gates.push g
          executors := put b.executors id (some i) })
  | .slots id => (.count ((b.gateOf id).map fun i => (b.machine.gate i).free), b)
  | .run _ task c =>
    let (x, b) := b.contextOr c
    b.callTask (b.taskNamed task) x
  | .launch executor task c id =>
    let (x, b) := b.contextOr c
    let (i, b) := b.onMachine fun m => m.launch (b.gateOf executor) (b.taskNamed task) x
    (.nothing, { b with completions := put b.completions id i })
  | .launchAll executor tasks c tag =>
    let (x, b) := b.contextOr c
    let (is, b) := b.onMachine fun m =>
      m.launchAll (b.gateOf executor) (tasks.map b.taskNamed) x
    let named := is.mapIdx fun k i => (tag ++ toString k, i)
    (.names (tasks.map fun t => (b.taskNamed t).name),
      { b with completions := named.foldl (fun cs (id, i) => put cs id i) b.completions })
  | .abort id =>
    match find? b.completions id with
    | some i => (.nothing, { b with machine := b.machine.abort i }.settle)
    | none => (.nothing, b.settle)
  | .finished id => (.flag ((find? b.completions id).any b.machine.isFinished), b)
  | .tryResult id =>
    match find? b.completions id with
    | some i =>
      match b.onMachine (·.tryResult i) with
      | (some r, b) => (.outcome r, b)
      | (none, b) => (.nothing, b)
    | none => (.nothing, b)
  | .await id =>
    let is := b.completionsOf [id]
    (b.withoutCompletions [id]).await
      (fun m => (Wait.completion (is.headD m.jobs.size)).look work m) plainAnswer
  | .waitFor id c =>
    let is := b.completionsOf [id]
    let (x, b) := (b.withoutCompletions [id]).contextOr (some c)
    b.await (fun m => m.waitUnder work (is.headD m.jobs.size) x) plainAnswer
  | .forget id => (.nothing, b.withoutCompletions [id])
  | .joinAll ids =>
    let is := b.completionsOf ids
    (b.withoutCompletions ids).await (fun m => m.joinAll work is) plainAnswer
  | .joinUnordered ids =>
    let is := b.completionsOf ids
    (b.withoutCompletions ids).await (fun m => m.joinUnordered is) plainAnswer
  | .summary ids =>
    let is := b.completionsOf ids
    (b.withoutCompletions ids).await (fun m => m.joinAll work is) summarize

def stepRecord (b : Bench) (s : Step) : Record × Bench :=
  let (answer, b) := b.step s
  (⟨answer, b.now, b.machine.notes.events.reverse⟩, { b with machine.notes.events := [] })

end Bench

def runFrom (b : Bench) : List Step → List Record
  | [] => []
  | s :: rest =>
    let (r, b) := b.stepRecord s
    r :: runFrom b rest

def run (steps : List Step) : List Record := runFrom { machine := emptyMachine } steps

end Resilience.Scenario
