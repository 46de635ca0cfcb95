import Mathlib.Tactic.Lemma
import Resilience.Bucket

namespace Resilience

namespace Limiter

inductive Ask where
  | tryAcquire
  | request
  | available
deriving DecidableEq

structure Event where
  now : Nat
  ask : Ask
deriving DecidableEq

inductive Answer (R : Type) where
  | flag (taken : Bool)
  | grant (grant : Grant)
  | content (tokens : R)

def Answer.granted {R : Type} : Answer R → Bool
  | flag taken => taken
  | grant .taken => true
  | _ => false

variable {R : Type} [Scalar R]

def step (l : Limiter R) (e : Event) : Answer R × Limiter R :=
  match e.ask with
  | .tryAcquire =>
    let (taken, l) := l.tryAcquire e.now
    (.flag taken, l)
  | .request =>
    let (g, l) := l.request e.now
    (.grant g, l)
  | .available =>
    let (tokens, l) := l.available e.now
    (.content tokens, l)

def run (l : Limiter R) : List Event → Limiter R
  | [] => l
  | e :: es => (l.step e).2.run es

def grants (l : Limiter R) : List Event → Nat
  | [] => 0
  | e :: es => (l.step e).1.granted.toNat + (l.step e).2.grants es

def InOrder : Nat → List Event → Nat → Prop
  | s, [], t => s ≤ t
  | s, e :: es, t => s ≤ e.now ∧ InOrder e.now es t

instance decidableInOrder : (s : Nat) → (es : List Event) → (t : Nat) → Decidable (InOrder s es t)
  | s, [], t => inferInstanceAs (Decidable (s ≤ t))
  | s, e :: es, t =>
    have := decidableInOrder e.now es t
    inferInstanceAs (Decidable (s ≤ e.now ∧ InOrder e.now es t))

inductive Effect (b : Bucket R) (now : Nat) : Bool → Bucket R → Prop
  | grant : Scalar.ofNat 1 - Bucket.epsilon ≤ (b.refill now).tokens →
      Effect b now true { b.refill now with
        tokens := Scalar.greatest ((b.refill now).tokens - Scalar.ofNat 1) (Scalar.ofNat 0) }
  | refill : Effect b now false (b.refill now)

lemma take_effect (b : Bucket R) (now : Nat) : Effect b now (b.take now).1 (b.take now).2 := by
  unfold Bucket.take
  dsimp only
  split
  · rename_i h
    exact .grant h
  · exact .refill

/-- How long the next token takes, seen by somebody who has just asked in vain. -/
def shortfall (l : Limiter R) (now : Nat) : Duration := (l.tryAcquire now).2.bucket.wait

lemma request_of_taken {l : Limiter R} {now : Nat} (h : (l.tryAcquire now).1 = true) :
    l.request now = (.taken, (l.tryAcquire now).2) := by
  unfold request
  rcases ht : l.tryAcquire now with ⟨taken, l'⟩
  obtain rfl : taken = true := by rw [← h, ht]
  rfl

lemma request_of_not_taken {l : Limiter R} {now : Nat} (h : (l.tryAcquire now).1 = false) :
    l.request now = (if l.maxWait.any (· < l.shortfall now) then .refused (l.shortfall now)
      else .wait (l.shortfall now), (l.tryAcquire now).2) := by
  have hmax : (l.tryAcquire now).2.maxWait = l.maxWait := rfl
  unfold request shortfall
  rcases ht : l.tryAcquire now with ⟨taken, l'⟩
  obtain rfl : taken = false := by rw [← h, ht]
  rw [ht] at hmax
  rw [← hmax]
  cases hl : l'.maxWait with
  | none => simp [hl]
  | some limit => simp [hl]

lemma request_limiter (l : Limiter R) (now : Nat) : (l.request now).2 = (l.tryAcquire now).2 := by
  cases h : (l.tryAcquire now).1 with
  | true => rw [request_of_taken h]
  | false => rw [request_of_not_taken h]

lemma request_granted (l : Limiter R) (now : Nat) :
    (Answer.grant (R := R) (l.request now).1).granted = (l.tryAcquire now).1 := by
  cases h : (l.tryAcquire now).1 with
  | true => rw [request_of_taken h]; rfl
  | false =>
    rw [request_of_not_taken h]
    dsimp only
    split <;> rfl

theorem step_effect (l : Limiter R) (e : Event) :
    Effect l.bucket e.now (l.step e).1.granted (l.step e).2.bucket := by
  obtain ⟨now, ask⟩ := e
  have htake := take_effect l.bucket now
  cases ask with
  | tryAcquire => exact htake
  | request =>
    simp only [step, request_granted, request_limiter]
    exact htake
  | available => exact .refill

lemma Effect.keeps {b b' : Bucket R} {now : Nat} {granted : Bool}
    (h : Effect b now granted b') :
    b'.capacity = b.capacity ∧ b'.rate = b.rate ∧ b'.refilled = now := by
  cases h <;> exact ⟨rfl, rfl, rfl⟩

end Limiter

end Resilience
