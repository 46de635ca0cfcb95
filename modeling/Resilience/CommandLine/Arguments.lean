import Resilience.Settings.Load
import Resilience.Simulation.Run

/-! The arguments of the program. There are three levels of commands, each with options of its own;
two options are known at every level, and the deepest place where one is given counts. The value of
an option is looked at when the next option comes or the level ends. -/

namespace Resilience.CommandLine

inductive Verb where
  | sample
  | validate
  | simulate
deriving DecidableEq

inductive Level where
  | top
  | config
  | verb (v : Verb)
deriving DecidableEq

inductive Flag where
  | config
  | logLevel
  | tasks
  | failureRate
  | latency
  | seed
deriving DecidableEq

inductive UsageFault where
  | help
  | version
  | nothingGiven
  | commandMissing
  | commandUnknown
  | argumentUnknown
  | valueMissing
  | valueInvalid
  | valueSurplus
  | repeated
deriving DecidableEq

structure Given where
  config : Option String := none
  logLevel : Option String := none
  tasks : Option Nat := none
  failureRate : Option Float := none
  latency : Option UInt64 := none
  seed : Option UInt64 := none

def Level.flag? (l : Level) (name : String) : Option Flag :=
  match l, name with
  | _, "config" => some .config
  | _, "log-level" => some .logLevel
  | .verb .simulate, "tasks" => some .tasks
  | .verb .simulate, "failure-rate" => some .failureRate
  | .verb .simulate, "latency-ms" => some .latency
  | .verb .simulate, "seed" => some .seed
  | _, _ => none

def Level.command? (l : Level) (name : String) : Option Level :=
  match l, name with
  | .top, "config" => some .config
  | .top, "simulate" => some (.verb .simulate)
  | .config, "sample" => some (.verb .sample)
  | .config, "validate" => some (.verb .validate)
  | _, _ => none

def Level.hasCommands : Level → Bool
  | .verb _ => false
  | _ => true

/-- Besides its commands, a level with commands knows `help`. -/
def Level.isCommand (l : Level) (name : String) : Bool :=
  l.hasCommands && (name == "help" || (l.command? name).isSome)

namespace Given

def isEmpty (g : Given) : Bool := g.config.isNone && g.logLevel.isNone

def once {α : Type} (present : Option α) (read : Except UsageFault α) : Except UsageFault (Option α) :=
  match present with
  | some _ => .error .repeated
  | none => read.map some

def orInvalid {α : Type} : Option α → Except UsageFault α
  | some a => .ok a
  | none => .error .valueInvalid

def set (g : Given) (value : String) : Flag → Except UsageFault Given
  | .config => do
    let path := if value.isEmpty then .error .valueMissing else .ok value
    return { g with config := ← once g.config path }
  | .logLevel => do return { g with logLevel := ← once g.logLevel (.ok value) }
  | .tasks => do
    return { g with tasks := ← once g.tasks (orInvalid ((readWord64 value).map (·.toNat)).toOption) }
  | .failureRate => do
    return { g with failureRate := ← once g.failureRate (orInvalid (Number.parse? value)) }
  | .latency => do
    return { g with latency := ← once g.latency (orInvalid (readWord64 value).toOption) }
  | .seed => do return { g with seed := ← once g.seed (orInvalid (readWord64 value).toOption) }

/-- What is given deeper goes before. -/
def withOuter (inner outer : Given) : Given :=
  { inner with
    config := inner.config.or outer.config
    logLevel := inner.logLevel.or outer.logLevel }

end Given

structure Scan where
  given : Given := {}
  /-- The last option and its value, if that was there already. -/
  pending : Option (Flag × Option String) := none
  /-- Behind `--` nothing is an option. -/
  trailing : Bool := false

namespace Scan

def resolve (s : Scan) : Except UsageFault Scan :=
  match s.pending with
  | some (flag, some value) => do
    return { s with given := ← s.given.set value flag, pending := none }
  | some (_, none) => .error .valueMissing
  | none => .ok s

def awaiting (s : Scan) : Bool :=
  match s.pending with
  | some (_, none) => true
  | _ => false

def giveValue (s : Scan) (value : String) : Scan :=
  { s with pending := s.pending.map fun p => (p.1, some value) }

end Scan

def splitLong (arg : List Char) : String × Option String :=
  let name := String.ofList (arg.takeWhile (· != '='))
  match arg.dropWhile (· != '=') with
  | _ :: value => (name, some (String.ofList value))
  | [] => (name, none)

def long (l : Level) (s : Scan) (name : String) (value : Option String) :
    Except UsageFault Scan := do
  let isVersion := name == "version" && l == .top
  if name == "help" || isVersion then
    if value.isSome then throw .valueSurplus
    let _ ← s.resolve
    throw (if isVersion then .version else .help)
  match l.flag? name, value with
  | none, _ => throw .argumentUnknown
  | some flag, some v => do
    let s ← s.resolve
    return { s with given := ← s.given.set v flag }
  | some flag, none =>
    let s ← s.resolve
    return { s with pending := some (flag, none) }

def short (l : Level) (s : Scan) (c : Char) : Except UsageFault Scan := do
  let isVersion := c == 'V' && l == .top
  if c == 'h' || isVersion then
    let _ ← s.resolve
    throw (if isVersion then .version else .help)
  throw .argumentUnknown

def surplus (l : Level) (s : Scan) (arg : String) : UsageFault :=
  if s.trailing && l.isCommand arg then .argumentUnknown
  else if l.hasCommands then .commandUnknown
  else .argumentUnknown

def helpOn : Level → List String → UsageFault
  | _, [] => .help
  | l, name :: rest =>
    match l.command? name with
    | some inner => helpOn inner rest
    | none => if l.hasCommands && name == "help" && rest.isEmpty then .help else .commandUnknown

def finish (l : Level) (s : Scan) : Except UsageFault (Given × Verb) := do
  let s ← s.resolve
  match l with
  | .verb v => return (s.given, v)
  | _ => throw (if s.given.isEmpty then .nothingGiven else .commandMissing)

def scan (l : Level) (s : Scan) : List String → Except UsageFault (Given × Verb)
  | [] => finish l s
  | arg :: rest =>
    if s.trailing then .error (surplus l s arg)
    else if !s.awaiting && l.hasCommands && arg == "help" then .error (helpOn l rest)
    else
      let inner := if s.awaiting then none else l.command? arg
      match inner, arg.toList with
      | some inner, _ => do
        let (deep, verb) ← scan inner {} rest
        let s ← s.resolve
        return (deep.withOuter s.given, verb)
      | none, ['-', '-'] => scan l { s with trailing := true } rest
      | none, '-' :: '-' :: name => do
        let (name, value) := splitLong name
        scan l (← long l s name value) rest
      | none, '-' :: c :: _ => do scan l (← short l s c) rest
      | none, _ =>
        if s.awaiting then scan l (s.giveValue arg) rest else .error (surplus l s arg)

inductive Command where
  | sample
  | validate
  | simulate (args : SimulationArgs)

structure Invocation where
  config : Option String
  logLevel : Option String
  command : Command

def command (g : Given) : Verb → Command
  | .sample => .sample
  | .validate => .validate
  | .simulate =>
    let base : SimulationArgs := {}
    .simulate {
      tasks := g.tasks.getD base.tasks
      failureRate := g.failureRate.getD base.failureRate
      latencyMillis := g.latency.getD base.latencyMillis
      seed := g.seed }

def parse (args : List String) : Except UsageFault Invocation := do
  let (g, verb) ← scan .top {} args
  return ⟨g.config, g.logLevel, command g verb⟩

end Resilience.CommandLine
