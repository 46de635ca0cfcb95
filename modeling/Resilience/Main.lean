import Resilience.CommandLine.Run

namespace Resilience.CommandLine

def fileState (path : String) : IO FileState := do
  try
    return .bytes (← IO.FS.readBinFile path)
  catch
    | .noFileOrDirectory .. => return .missing
    | _ => return .unreadable

def variableNames : List String :=
  ["LOG_LEVEL", "LOG_FORMAT", "MAX_CONCURRENCY", "TIMEOUT", "RETRY_MAX_ATTEMPTS"].map ("BULWARK_" ++ ·)

def surroundings (args : List String) : IO Surroundings := do
  let values ← variableNames.mapM fun name => do return (name, ← IO.getEnv name)
  let state ← match (parse args).toOption.bind (·.config) with
    | some path => fileState path
    | none => pure .missing
  return {
    environment := fun name => (values.lookup name).join
    file := fun _ => state
    entropy := ← IO.rand 0 18446744073709551615 }

end Resilience.CommandLine

open Resilience.CommandLine in
def main (args : List String) : IO UInt32 := do
  let exit := run (← surroundings args) args
  (← IO.getStdout).putStr exit.output
  match exit.complaint with
  | some line => (← IO.getStderr).putStrLn line
  | none => pure ()
  return exit.code.toUInt32
