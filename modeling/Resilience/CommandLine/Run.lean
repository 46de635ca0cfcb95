import Resilience.CommandLine.Arguments
import Resilience.Settings.Filter

namespace Resilience.CommandLine

inductive FileState where
  | missing
  | unreadable
  | bytes (content : ByteArray)

def FileState.content : FileState → Option ByteArray
  | bytes content => some content
  | _ => none

structure Surroundings where
  environment : Environment
  file : String → FileState
  entropy : Nat

structure Exit where
  code : Nat
  output : String := ""
  complaint : Option String := none

def failedAfter (output message : String) : Exit := ⟨1, output, some ("Error: " ++ message)⟩

def failed (message : String) : Exit := failedAfter "" message

def crashed (c : Crash) : Exit := ⟨101, "", some c.message⟩

def versionLine : String := "bulwark 0.1.0\n"

def usageLines : String :=
  "Usage: bulwark [--config PATH] [--log-level LEVEL] COMMAND\n\n" ++
  "Commands:\n" ++
  "  config sample    Print a sample configuration file\n" ++
  "  config validate  Validate the file given with --config\n" ++
  "  simulate         Push simulated tasks through the configured policy stack\n"

def usage : UsageFault → Exit
  | .help => { code := 0, output := usageLines }
  | .version => { code := 0, output := versionLine }
  | _ => { code := 2, complaint := some usageLines }

def validate (w : Surroundings) : Option String → Exit
  | none => failed "--config PATH is required for validation"
  | some path =>
    match w.file path with
    | .missing => failed ("Configuration file not found: " ++ Text.quote path)
    | f =>
      match ({} : Loader).ofBytes w.environment f.content with
      | .ok _ => { code := 0, output := "Configuration file is valid\n" }
      | .error (.crash c) => crashed c
      | .error (.refused e) =>
        failedAfter ("Configuration validation failed: " ++ e.message ++ "\n") e.message

def load (w : Surroundings) (config : Option String) : Loaded Settings :=
  match config with
  | some path => ({} : Loader).ofBytes w.environment (w.file path).content
  | none => ({} : Loader).ofEnvironment w.environment

def withLevel (s : Settings) (logLevel : Option String) : Except String Settings :=
  match logLevel with
  | some text => do return { s with logging.level := ← LogLevel.parse text }
  | none => .ok s

def simulate (w : Surroundings) (i : Invocation) (args : SimulationArgs) : Exit :=
  match load w i.config with
  | .error (.crash c) => crashed c
  | .error (.refused e) => failed e.message
  | .ok s =>
    match withLevel s i.logLevel with
    | .error e => failed e
    | .ok s =>
      match s.logging.checkFilter with
      | .error e => failed e
      | .ok _ =>
        match Simulation.run s args w.entropy .never with
        | .error (.crash c) => crashed c
        | .error e => failed e.message
        | .ok r => { code := 0, output := String.join (r.lines.map (· ++ "\n")) }

def run (w : Surroundings) (args : List String) : Exit :=
  match parse args with
  | .error fault => usage fault
  | .ok i =>
    match i.command with
    | .sample => { code := 0, output := Settings.sample.text }
    | .validate => validate w i.config
    | .simulate args => simulate w i args

end Resilience.CommandLine
