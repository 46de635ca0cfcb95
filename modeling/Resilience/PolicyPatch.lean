import Resilience.Retry

/-! A backoff policy described by a preset and the fields that differ from it. -/

namespace Resilience

inductive Preset where
  | standard
  | conservative
  | aggressive
  | fixed (maxAttempts : UInt32) (delay : Duration)
  | linear (maxAttempts : UInt32) (delay : Duration)

def Preset.policy : Preset → Except Crash (BackoffPolicy Float)
  | standard => .ok .standard
  | conservative => .ok .conservative
  | aggressive => .ok .aggressive
  | fixed n d => .ok (BackoffPolicy.fixed n d)
  | linear n d => BackoffPolicy.linear n d

structure PolicyPatch where
  preset : Preset := .standard
  maxAttempts : Option UInt32 := none
  initialDelay : Option Duration := none
  maxDelay : Option Duration := none
  strategy : Option (Strategy Float) := none
  jitter : Option Bool := none

def PolicyPatch.policy (p : PolicyPatch) : Except Crash (BackoffPolicy Float) :=
  p.preset.policy.map fun base => {
    maxAttempts := p.maxAttempts.getD base.maxAttempts
    initialDelay := p.initialDelay.getD base.initialDelay
    maxDelay := p.maxDelay.getD base.maxDelay
    strategy := p.strategy.getD base.strategy
    jitter := p.jitter.getD base.jitter }

end Resilience
