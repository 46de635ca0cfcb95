import Resilience.Failure
import Resilience.Scalar

/-! Token buckets. A bucket is refilled lazily, whenever somebody looks at it, and never holds more
than its capacity. -/

namespace Resilience

structure Bucket (R : Type) where
  tokens : R
  refilled : Nat
  capacity : R
  rate : R

namespace Bucket

variable {R : Type} [Scalar R]

/-- A token counts as whole if it lacks no more than this. -/
def epsilon : R := Scalar.ofNat 1 / Scalar.ofNat 1000000000

def full (capacity : Nat) (rate : R) (now : Nat) : Bucket R :=
  ⟨Scalar.ofNat capacity, now, Scalar.ofNat capacity, rate⟩

def refill (b : Bucket R) (now : Nat) : Bucket R :=
  { b with
    tokens := Scalar.least (b.tokens + Scalar.seconds (now - b.refilled) * b.rate) b.capacity
    refilled := now }

def take (b : Bucket R) (now : Nat) : Bool × Bucket R :=
  let b := b.refill now
  if Scalar.ofNat 1 - epsilon ≤ b.tokens then
    (true, { b with tokens := Scalar.greatest (b.tokens - Scalar.ofNat 1) (Scalar.ofNat 0) })
  else (false, b)

def wait (b : Bucket R) : Duration :=
  max ((Scalar.toDuration? ((Scalar.ofNat 1 - b.tokens) / b.rate)).getD .longest) (.ofNanos 1)

end Bucket

structure Rate where
  count : UInt32
  per : Duration
deriving DecidableEq

namespace Rate

def perSecond (count : UInt32) : Rate := ⟨count, .ofSecs 1⟩
def perMinute (count : UInt32) : Rate := ⟨count, .ofSecs 60⟩

def tokensPerSecond {R : Type} [Scalar R] (r : Rate) : R :=
  Scalar.ofNat r.count.toNat / Scalar.seconds r.per.nanos

end Rate

structure RateLimit where
  rate : Rate
  burst : Option UInt32 := none
  /-- The longest wait for a token that is begun at all. -/
  maxWait : Option Duration := none
deriving DecidableEq

namespace RateLimit

def capacity (c : RateLimit) : UInt32 := c.burst.getD c.rate.count

def validate (c : RateLimit) : Except Failure Unit := do
  if c.rate.count = 0 then throw (.invalid "rate count must be greater than zero")
  if c.rate.per.isZero then throw (.invalid "rate period must be greater than zero")
  if c.burst = some 0 then throw (.invalid "burst must be greater than zero")

end RateLimit

structure Limiter (R : Type) where
  bucket : Bucket R
  maxWait : Option Duration

inductive Grant where
  | taken
  | refused (retryAfter : Duration)
  | wait (length : Duration)
deriving DecidableEq

namespace Limiter

variable {R : Type} [Scalar R]

def ofConfig (c : RateLimit) (now : Nat) : Except Failure (Limiter R) := do
  c.validate
  return ⟨.full c.capacity.toNat c.rate.tokensPerSecond now, c.maxWait⟩

instance : Inhabited (Limiter R) := ⟨⟨.full 0 (Scalar.ofNat 0) 0, none⟩⟩

def tryAcquire (l : Limiter R) (now : Nat) : Bool × Limiter R :=
  let (taken, bucket) := l.bucket.take now
  (taken, { l with bucket })

def available (l : Limiter R) (now : Nat) : R × Limiter R :=
  let bucket := l.bucket.refill now
  (bucket.tokens, { l with bucket })

def request (l : Limiter R) (now : Nat) : Grant × Limiter R :=
  let (taken, l) := l.tryAcquire now
  if taken then (.taken, l)
  else
    let wait := l.bucket.wait
    match l.maxWait with
    | some limit => (if limit < wait then .refused wait else .wait wait, l)
    | none => (.wait wait, l)

end Limiter

end Resilience
