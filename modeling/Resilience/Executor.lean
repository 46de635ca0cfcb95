import Resilience.Crash
import Resilience.Gate

namespace Resilience

structure ExecutorConfig where
  maxConcurrency : Option UInt64 := none
deriving DecidableEq, Inhabited

inductive ExecutionError where
  | noRuntime (message : String)
  | invalidConfig (message : String)
deriving DecidableEq

def ExecutionError.message : ExecutionError → String
  | noRuntime message => "No tokio runtime available: " ++ message
  | invalidConfig message => "Invalid executor configuration: " ++ message

namespace ExecutorConfig

def validate (c : ExecutorConfig) : Except ExecutionError Unit :=
  if c.maxConcurrency = some 0 then
    .error (.invalidConfig "max_concurrency must be greater than zero")
  else .ok ()

def gate (c : ExecutorConfig) : Except Crash (Option Gate) :=
  match c.maxConcurrency with
  | none => .ok none
  | some n =>
    if Gate.maxPermits < n.toNat then .error .tooManyPermits else .ok (some { free := n.toNat })

end ExecutorConfig

end Resilience
