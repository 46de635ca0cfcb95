import Resilience.Await
import Resilience.PolicyPatch
import Resilience.Scenario.Script
import Resilience.Summary

namespace Resilience.Scenario

inductive ContextSource where
  | background
  | token
  | clone (of : Option String)
  | child (of : Option String)
  | deadline (of : Option String) (instant : Nat)
  | timeout (of : Option String) (after : Duration)

inductive Decorator where
  | retry (policy : PolicyPatch)
  | retryDefault
  | retryScript (decisions : List Decision)
  | timeout (after : Duration)
  | rateLimit (config : RateLimit)
  | circuitBreaker (config : BreakerConfig)
  | limiter (id : String)
  | breaker (id : String)
  | pipeline (id : String)
  | rename (name : String)
  | log (tag : String)

inductive TaskSource where
  /-- A script under a name; its events show `label`. -/
  | script (name label : String) (plans : List (List Action))
  | derived (of : String)
  | simulated (index : Nat) (attempts : List Attempt)

inductive Step where
  | advance (d : Duration)
  | wait (d : Duration)
  | settle
  | context (id : String) (source : ContextSource)
  | cancel (context : String)
  | cancelAfter (context : String) (after : Duration)
  | contextInfo (context : String)
  | contextSleep (context : Option String) (d : Duration)
  | contextDone (context : String)
  | contextRun (context : Option String) (d : Option Duration)
  | limiter (id : String) (config : RateLimit)
  | limiterClone (id of : String)
  | tryAcquire (limiter : String)
  | tokens (limiter : String)
  | acquire (limiter : String) (context : Option String)
  | breaker (id : String) (config : BreakerConfig)
  | breakerClone (id of : String)
  | state (breaker : String)
  | breakerInfo (breaker : String)
  | reset (breaker : String)
  | enter (breaker guard : String)
  | settleGuard (guard : String) (settlement : Settlement)
  | breakerCall (breaker task : String) (context : Option String)
  | pipeline (id : String) (stack : Option PolicyStack)
  | task (id : String) (source : TaskSource) (decorators : List Decorator)
  | taskInfo (task : String)
  | call (task : String) (context : Option String) (dropAfter : Option Duration)
  | executor (id : String) (config : ExecutorConfig)
  | slots (executor : String)
  | run (executor task : String) (context : Option String)
  | launch (executor task : String) (context : Option String) (id : String)
  | launchAll (executor : String) (tasks : List String) (context : Option String) (tag : String)
  | abort (completion : String)
  | finished (completion : String)
  | tryResult (completion : String)
  | await (completion : String)
  | waitFor (completion context : String)
  | forget (completion : String)
  | joinAll (completions : List String)
  | joinUnordered (completions : List String)
  | summary (completions : List String)

inductive Answer where
  | nothing
  | ok
  | flag (b : Bool)
  | text (s : String)
  | count (n : Option Nat)
  | number (x : Float)
  | outcome (r : Outcome)
  | outcomes (rs : List Outcome)
  | arrivals (rs : List (Nat × Nat × Outcome))
  | summary (s : Summary)
  | called (r : Outcome) (took : Nat)
  | output
  | contextInfo (err : Option Reason) (deadline : Option Nat)
  | breakerInfo (b : Breaker)
  | taskInfo (name : String)
  | names (names : List String)
  | error (message : String)
  | parseError
  | crash (c : Crash)

structure Record where
  answer : Answer
  now : Nat
  events : List Event

end Resilience.Scenario
