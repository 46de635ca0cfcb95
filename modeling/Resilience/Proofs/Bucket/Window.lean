import Mathlib.Algebra.Order.Field.Rat
import Mathlib.Data.Rat.Cast.Order
import Mathlib.Tactic.FieldSimp
import Mathlib.Tactic.Linarith
import Mathlib.Tactic.Positivity
import Mathlib.Tactic.Ring
import Resilience.Proofs.Bucket.Traffic

/-! The window of a limiter, in exact arithmetic. A bucket that is refilled lazily holds what it
would hold if it were refilled all the time. Between two instants no more tokens are granted than
the bucket can hold and the rate adds, except for the slack of a token that counts as whole; and
as long as the bucket does not overflow, no token is lost. -/

namespace Resilience

namespace Scalar

lemma least_eq_min (a b : ℚ) : least a b = min a b := by
  unfold least
  split <;> rename_i h
  · exact (min_eq_left h).symm
  · exact (min_eq_right (le_of_not_ge h)).symm

lemma greatest_eq_max (a b : ℚ) : greatest a b = max a b := by
  unfold greatest
  split <;> rename_i h
  · exact (max_eq_right h).symm
  · exact (max_eq_left (le_of_not_ge h)).symm

lemma seconds_eq_div (n : Nat) : (seconds n : ℚ) = n / 1000000000 := by
  have hn : ((n / 1000000000 : Nat) : ℚ) * 1000000000 + ((n % 1000000000 : Nat) : ℚ) = n := by
    exact_mod_cast Nat.div_add_mod' n 1000000000
  change ((n / 1000000000 : Nat) : ℚ) + ((n % 1000000000 : Nat) : ℚ) / ((1000000000 : Nat) : ℚ) = _
  rw [← hn]
  push_cast
  ring

end Scalar

namespace Bucket

def inflow (b : Bucket ℚ) (s t : Nat) : ℚ := b.rate * (((t : ℚ) - s) / 1000000000)

structure Sound (b : Bucket ℚ) (now : Nat) : Prop where
  tokens_nonneg : 0 ≤ b.tokens
  tokens_le : b.tokens ≤ b.capacity
  rate_nonneg : 0 ≤ b.rate
  refilled_le : b.refilled ≤ now

/-- Nothing overflows if the bucket is left alone from `s` to `t`. -/
def Fits (b : Bucket ℚ) (s t : Nat) : Prop := (b.refill s).tokens + b.inflow s t ≤ b.capacity

lemma inflow_add (b : Bucket ℚ) (s u t : Nat) : b.inflow s u + b.inflow u t = b.inflow s t := by
  unfold inflow
  ring

instance (b : Bucket ℚ) (s t : Nat) : Decidable (b.Fits s t) :=
  inferInstanceAs (Decidable ((b.refill s).tokens + b.inflow s t ≤ b.capacity))

variable {b : Bucket ℚ} {s t : Nat}

lemma tokens_refill (h : b.refilled ≤ t) :
    (b.refill t).tokens = min (b.tokens + b.inflow b.refilled t) b.capacity := by
  unfold refill inflow
  rw [Scalar.least_eq_min, Scalar.seconds_eq_div, Nat.cast_sub h, mul_comm]

namespace Sound

lemma inflow_nonneg (h : b.Sound s) (hst : s ≤ t) : 0 ≤ b.inflow s t := by
  have hs : (s : ℚ) ≤ t := by exact_mod_cast hst
  have hr := h.rate_nonneg
  unfold inflow
  apply mul_nonneg hr
  linarith

lemma tokens_refill_later (h : b.Sound s) (hst : s ≤ t) :
    (b.refill t).tokens = min ((b.refill s).tokens + b.inflow s t) b.capacity := by
  have hin := h.inflow_nonneg hst
  rw [tokens_refill (Nat.le_trans h.refilled_le hst), tokens_refill h.refilled_le,
    ← b.inflow_add b.refilled s t, ← add_assoc]
  rcases le_total (b.tokens + b.inflow b.refilled s) b.capacity with hle | hge
  · rw [min_eq_left hle]
  · rw [min_eq_right hge, min_eq_right (by linarith), min_eq_right (by linarith)]

lemma tokens_refill_self (h : b.Sound s) (hs : b.refilled = s) :
    (b.refill s).tokens = b.tokens := by
  have hin : b.inflow b.refilled s = 0 := by simp [inflow, hs]
  rw [tokens_refill h.refilled_le, hin, add_zero, min_eq_left h.tokens_le]

lemma refill (h : b.Sound s) (hst : s ≤ t) : (b.refill t).Sound t where
  tokens_nonneg := by
    have hin := Sound.inflow_nonneg (s := b.refilled) ⟨h.1, h.2, h.3, Nat.le_refl _⟩
      (Nat.le_trans h.refilled_le hst)
    rw [tokens_refill (Nat.le_trans h.refilled_le hst)]
    exact le_min (add_nonneg h.tokens_nonneg hin) (h.tokens_nonneg.trans h.tokens_le)
  tokens_le := by
    rw [tokens_refill (Nat.le_trans h.refilled_le hst)]
    exact min_le_right _ _
  rate_nonneg := h.rate_nonneg
  refilled_le := Nat.le_refl t

end Sound

end Bucket

namespace Limiter

variable {b b' : Bucket ℚ} {l : Limiter ℚ} {s t now : Nat} {es : List Event} {granted : Bool}

lemma Effect.sound (h : Effect b now granted b') (hb : b.Sound s) (hs : s ≤ now) :
    b'.Sound now := by
  have hr := hb.refill hs
  cases h with
  | grant _ =>
    have hcapacity := hr.tokens_nonneg.trans hr.tokens_le
    have htokens := hr.tokens_le
    refine ⟨?_, ?_, hr.rate_nonneg, hr.refilled_le⟩
    · dsimp only
      rw [Scalar.greatest_eq_max]
      exact le_max_right _ _
    · dsimp only
      rw [Scalar.greatest_eq_max]
      apply max_le _ hcapacity
      change (b.refill now).tokens - ((1 : Nat) : ℚ) ≤ _
      push_cast
      linarith
  | refill => exact hr

lemma Effect.tokens (h : Effect b now granted b') :
    (granted.toNat : ℚ) * (1 - 1 / 1000000000) + b'.tokens ≤ (b.refill now).tokens ∧
      (b.refill now).tokens ≤ b'.tokens + granted.toNat := by
  cases h with
  | grant hwhole =>
    change ((1 : Nat) : ℚ) - ((1 : Nat) : ℚ) / ((1000000000 : Nat) : ℚ) ≤ _ at hwhole
    rw [Bool.toNat_true, Scalar.greatest_eq_max]
    change _ + max ((b.refill now).tokens - ((1 : Nat) : ℚ)) ((0 : Nat) : ℚ) ≤ _ ∧
      _ ≤ max ((b.refill now).tokens - ((1 : Nat) : ℚ)) ((0 : Nat) : ℚ) + _
    push_cast at hwhole ⊢
    have htaken : max ((b.refill now).tokens - 1) 0 ≤
        (b.refill now).tokens - (1 - 1 / 1000000000) := by
      apply max_le <;> linarith
    have hleft := le_max_left ((b.refill now).tokens - 1) 0
    constructor <;> linarith
  | refill => simp

lemma run_sound (hl : l.bucket.Sound s) (h : InOrder s es t) : (l.run es).bucket.Sound t := by
  induction es generalizing l s with
  | nil => exact ⟨hl.1, hl.2, hl.3, Nat.le_trans hl.refilled_le h⟩
  | cons e es ih => exact ih ((step_effect l e).sound hl h.1) h.2

lemma run_keeps (l : Limiter ℚ) (es : List Event) :
    (l.run es).bucket.capacity = l.bucket.capacity ∧ (l.run es).bucket.rate = l.bucket.rate := by
  induction es generalizing l with
  | nil => exact ⟨rfl, rfl⟩
  | cons e es ih =>
    obtain ⟨hcapacity, hrate, _⟩ := (step_effect l e).keeps
    obtain ⟨ihc, ihr⟩ := ih (l.step e).2
    exact ⟨ihc.trans hcapacity, ihr.trans hrate⟩

lemma step_refill_self (hl : l.bucket.Sound s) {e : Event} (hs : s ≤ e.now) :
    ((l.step e).2.bucket.refill e.now).tokens = (l.step e).2.bucket.tokens := by
  have he := step_effect l e
  exact (he.sound hl hs).tokens_refill_self he.keeps.2.2

lemma step_inflow (l : Limiter ℚ) (e : Event) (s t : Nat) :
    (l.step e).2.bucket.inflow s t = l.bucket.inflow s t := by
  unfold Bucket.inflow
  rw [(step_effect l e).keeps.2.1]

lemma grants_le (hl : l.bucket.Sound s) (h : InOrder s es t) :
    (l.grants es : ℚ) * (1 - 1 / 1000000000) + ((l.run es).bucket.refill t).tokens ≤
      (l.bucket.refill s).tokens + l.bucket.inflow s t := by
  induction es generalizing l s with
  | nil =>
    rw [run, hl.tokens_refill_later h]
    simp [grants]
  | cons e es ih =>
    obtain ⟨hs, ht⟩ := h
    have heffect := step_effect l e
    have hrest := ih (heffect.sound hl hs) ht
    rw [step_refill_self hl hs, step_inflow] at hrest
    have hmiddle : (l.bucket.refill e.now).tokens ≤
        (l.bucket.refill s).tokens + l.bucket.inflow s e.now := by
      rw [hl.tokens_refill_later hs]
      exact min_le_left _ _
    have hadd := l.bucket.inflow_add s e.now t
    have hone := heffect.tokens.1
    rw [run, grants]
    push_cast
    linarith

def NeverFull (l : Limiter ℚ) (s : Nat) : List Event → Nat → Prop
  | [], t => l.bucket.Fits s t
  | e :: es, t => l.bucket.Fits s e.now ∧ (l.step e).2.NeverFull e.now es t

instance decidableNeverFull (l : Limiter ℚ) (s : Nat) :
    (es : List Event) → (t : Nat) → Decidable (l.NeverFull s es t)
  | [], t => inferInstanceAs (Decidable (l.bucket.Fits s t))
  | e :: es, t =>
    have := decidableNeverFull (l.step e).2 e.now es t
    inferInstanceAs (Decidable (l.bucket.Fits s e.now ∧ (l.step e).2.NeverFull e.now es t))

lemma le_grants (hl : l.bucket.Sound s) (h : InOrder s es t) (hfits : l.NeverFull s es t) :
    (l.bucket.refill s).tokens + l.bucket.inflow s t ≤
      ((l.run es).bucket.refill t).tokens + l.grants es := by
  induction es generalizing l s with
  | nil =>
    rw [run, hl.tokens_refill_later h, min_eq_left hfits]
    simp [grants]
  | cons e es ih =>
    obtain ⟨hs, ht⟩ := h
    obtain ⟨hfit, hfits⟩ := hfits
    have heffect := step_effect l e
    have hrest := ih (heffect.sound hl hs) ht hfits
    rw [step_refill_self hl hs, step_inflow] at hrest
    have hmiddle : (l.bucket.refill e.now).tokens =
        (l.bucket.refill s).tokens + l.bucket.inflow s e.now := by
      rw [hl.tokens_refill_later hs, min_eq_left hfit]
    have hadd := l.bucket.inflow_add s e.now t
    have hone := heffect.tokens.2
    rw [run, grants]
    push_cast
    linarith

end Limiter

def RateLimit.accrued (c : RateLimit) (s t : Nat) : ℚ :=
  c.rate.count.toNat * ((t : ℚ) - s) / c.rate.per.nanos

lemma RateLimit.inflow_full (c : RateLimit) (capacity start s t : Nat) :
    (Bucket.full capacity c.rate.tokensPerSecond start : Bucket ℚ).inflow s t = c.accrued s t := by
  unfold Bucket.inflow accrued
  change ((c.rate.count.toNat : ℚ) / Scalar.seconds c.rate.per.nanos) * _ = _
  rw [Scalar.seconds_eq_div]
  field_simp

lemma Bucket.sound_full (c : RateLimit) (start : Nat) :
    (Bucket.full c.capacity.toNat c.rate.tokensPerSecond start : Bucket ℚ).Sound start where
  tokens_nonneg := Nat.cast_nonneg c.capacity.toNat
  tokens_le := le_refl _
  rate_nonneg := by
    change 0 ≤ (c.rate.count.toNat : ℚ) / Scalar.seconds c.rate.per.nanos
    rw [Scalar.seconds_eq_div]
    positivity
  refilled_le := Nat.le_refl start

namespace Limiter

lemma ofConfig_eq_ok {c : RateLimit} {start : Nat} {l : Limiter ℚ}
    (h : ofConfig c start = .ok l) :
    l = ⟨.full c.capacity.toNat c.rate.tokensPerSecond start, c.maxWait⟩ := by
  unfold ofConfig at h
  cases hv : c.validate with
  | error e =>
    rw [hv] at h
    cases h
  | ok _ =>
    rw [hv] at h
    cases h
    rfl

theorem window_bounds_and_conserves {c : RateLimit} {start s t : Nat} {l : Limiter ℚ}
    (hl : ofConfig c start = .ok l) {before window : List Event} (hbefore : InOrder start before s)
    (hwindow : InOrder s window t) :
    0 ≤ ((l.run before).run window).bucket.tokens ∧
    ((l.run before).run window).bucket.tokens ≤ c.capacity.toNat ∧
    ((l.run before).grants window : ℚ) * (1 - 1 / 1000000000) ≤ c.capacity.toNat + c.accrued s t ∧
    ((l.run before).NeverFull s window t →
      ((l.run before).available s).1 + c.accrued s t - (l.run before).grants window ≤
        (((l.run before).run window).available t).1) := by
  have hfull := ofConfig_eq_ok hl
  have hstart : l.bucket.Sound start := hfull ▸ Bucket.sound_full c start
  have hs := run_sound hstart hbefore
  have ht := run_sound hs hwindow
  have hcapacity : ∀ es, (l.run es).bucket.capacity = c.capacity.toNat := by
    intro es
    rw [(run_keeps l es).1, hfull]
    rfl
  have hinflow : (l.run before).bucket.inflow s t = c.accrued s t := by
    unfold Bucket.inflow
    rw [(run_keeps l before).2, ← c.inflow_full c.capacity.toNat start, hfull]
    rfl
  have hcapacity' : ((l.run before).run window).bucket.capacity = c.capacity.toNat := by
    rw [(run_keeps _ window).1, hcapacity]
  have hin := grants_le hs hwindow
  rw [hinflow] at hin
  have hbegin := (hs.refill (Nat.le_refl s)).tokens_le
  have hend := (ht.refill (Nat.le_refl t)).tokens_nonneg
  refine ⟨ht.tokens_nonneg, hcapacity' ▸ ht.tokens_le, ?_, fun hfits => ?_⟩
  · have hb : ((l.run before).bucket.refill s).tokens ≤ c.capacity.toNat := by
      rw [← hcapacity before]
      exact hbegin
    linarith
  · have hout := le_grants hs hwindow hfits
    rw [hinflow] at hout
    change ((l.run before).bucket.refill s).tokens + _ - _ ≤
      (((l.run before).run window).bucket.refill t).tokens
    linarith

def threePerSecond : RateLimit := { rate := .perSecond 3, burst := some 2 }

def twoTokens : Limiter ℚ := ⟨.full 2 threePerSecond.rate.tokensPerSecond 0, none⟩

def drain : List Event := [⟨0, .tryAcquire⟩, ⟨0, .request⟩, ⟨100000000, .available⟩]

def pressure : List Event :=
  [⟨400000000, .request⟩, ⟨500000000, .request⟩, ⟨800000000, .tryAcquire⟩]

theorem pressure_takes_what_flows_in :
    ofConfig threePerSecond 0 = .ok twoTokens ∧ InOrder 0 drain 200000000 ∧
    InOrder 200000000 pressure 900000000 ∧
    (twoTokens.run drain).NeverFull 200000000 pressure 900000000 ∧
    (twoTokens.run drain).grants pressure = 2 ∧
    0 ≤ ((twoTokens.run drain).run pressure).bucket.tokens ∧
    ((twoTokens.run drain).run pressure).bucket.tokens ≤ threePerSecond.capacity.toNat ∧
    ((twoTokens.run drain).grants pressure : ℚ) * (1 - 1 / 1000000000) ≤
      threePerSecond.capacity.toNat + threePerSecond.accrued 200000000 900000000 ∧
    ((twoTokens.run drain).available 200000000).1 + threePerSecond.accrued 200000000 900000000 -
        (twoTokens.run drain).grants pressure ≤
      (((twoTokens.run drain).run pressure).available 900000000).1 := by
  have hl : ofConfig threePerSecond 0 = .ok twoTokens := rfl
  have hdrain : InOrder 0 drain 200000000 := by decide
  have hpressure : InOrder 200000000 pressure 900000000 := by decide
  have hfits : (twoTokens.run drain).NeverFull 200000000 pressure 900000000 := by decide +kernel
  have hgrants : (twoTokens.run drain).grants pressure = 2 := by decide +kernel
  obtain ⟨hnonneg, hle, hbound, hkept⟩ := window_bounds_and_conserves hl hdrain hpressure
  exact ⟨hl, hdrain, hpressure, hfits, hgrants, hnonneg, hle, hbound, hkept hfits⟩

end Limiter

end Resilience
