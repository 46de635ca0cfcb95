import Mathlib.Data.Rat.Floor
import Mathlib.Tactic.Linarith
import Mathlib.Tactic.Ring
import Resilience.Proofs.Backoff.Fibonacci
import Resilience.Retry

/-! The schedule of a backoff policy, in exact arithmetic. Each strategy but the listed one
multiplies the initial delay by a factor that grows with the attempts. The product is cut off twice,
at the longest delay and at the largest word of nanoseconds, and neither cut disturbs the order. -/

namespace Resilience

lemma Duration.min_le_right (a b : Duration) : min a b ≤ b := by
  rw [le_def, nanos_min]
  exact Nat.min_le_right ..

namespace Scalar

lemma powerFrom_eq (result base : ℚ) (n : Nat) : powerFrom result base n = result * base ^ n := by
  induction n using Nat.strong_induction_on generalizing result base with
  | h n ih =>
    have hparts : n % 2 + 2 * (n / 2) = n := Nat.mod_add_div n 2
    have hresult : (if n % 2 = 1 then result * base else result) = result * base ^ (n % 2) := by
      rcases Nat.mod_two_eq_zero_or_one n with h | h <;> simp [h]
    rw [powerFrom, hresult]
    split
    · rename_i hhalf
      rw [hhalf] at hparts
      rw [← hparts]
      simp
    · rename_i hhalf
      rw [ih (n / 2) (by omega), ← pow_two, ← pow_mul, mul_assoc, ← pow_add, hparts]

lemma power_eq (base : ℚ) (n : Nat) : power base n = base ^ n := by
  rw [power, powerFrom_eq]
  exact one_mul _

lemma toNat_wholePart (q : ℚ) : (wholePart q).toNat = min ⌊q⌋₊ Backoff.wordMax := by
  have hword : min q.floor.toNat 18446744073709551615 < 2 ^ 64 := by omega
  simp only [wholePart, Nat.toUInt64_eq, UInt64.toNat_ofNat', Nat.mod_eq_of_lt hword]
  rfl

end Scalar

/-- What the initial delay is multiplied by before attempt `k + 1`. -/
def Strategy.factor? : Strategy ℚ → Nat → Option ℚ
  | .fixed, _ => some 1
  | .linear, k => some k
  | .exponential base, k => some (base ^ min (k - 1) 2147483647)
  | .fibonacci, k => some (Nat.fib k)
  | .custom _, _ => none

namespace Backoff

section

variable {R : Type} [Scalar R] (b : Backoff R) (k : Nat)

lemma nanos_delay : (b.delay k).nanos = min (b.base k).nanos b.limit.nanos :=
  Duration.nanos_min ..

lemma delay_le : b.delay k ≤ b.limit := Duration.min_le_right ..

end

/-- A product in whole nanoseconds, cut off at the limit and at the largest word. -/
def cut (limit : Nat) (product : ℚ) : Nat :=
  if limit ≤ product then limit else min ⌊product⌋₊ wordMax

section

variable {limit : Nat} {p q : ℚ}

lemma floor_le_of_lt (h : p < limit) : ⌊p⌋₊ ≤ limit := Nat.floor_le_of_le h.le

lemma cut_le (limit : Nat) (p : ℚ) : cut limit p ≤ limit := by
  unfold cut
  split
  · exact le_rfl
  · rename_i h
    exact (min_le_left _ _).trans (floor_le_of_lt (lt_of_not_ge h))

lemma cut_mono (h : p ≤ q) : cut limit p ≤ cut limit q := by
  by_cases hq : limit ≤ q
  · rw [show cut limit q = limit from if_pos hq]
    exact cut_le limit p
  · have hp : ¬ limit ≤ p := fun hp => hq (hp.trans h)
    rw [cut, cut, if_neg hp, if_neg hq]
    exact min_le_min_right wordMax (Nat.floor_mono h)

lemma cut_eq (hp : 0 ≤ p) (hword : p < 18446744073709551616) :
    cut limit p = min limit ⌊p⌋₊ := by
  have hfloor : ⌊p⌋₊ ≤ wordMax := by
    rw [wordMax, ← Nat.lt_succ_iff, Nat.floor_lt hp]
    exact_mod_cast hword
  unfold cut
  split
  · rename_i h
    exact (min_eq_left (Nat.le_floor h)).symm
  · rename_i h
    rw [min_eq_left hfloor, min_eq_right (floor_le_of_lt (lt_of_not_ge h))]

end

variable (b : Backoff ℚ)

lemma scaled_eq (f : ℚ) : b.scaled f =
    if (b.initial.nanos : ℚ) * f ≤ 0 then .zero
    else if b.limit.nanos ≤ (b.initial.nanos : ℚ) * f then b.limit
    else .ofNanos (Scalar.wholePart (b.initial.nanos * f)) := by
  have hnumber : Scalar.isNaN ((b.initial.nanos : ℚ) * f) = false := by
    simp [Scalar.isNaN]
  change (if Scalar.isNaN ((b.initial.nanos : ℚ) * f) ∨ (b.initial.nanos : ℚ) * f ≤ ((0 : Nat) : ℚ)
    then Duration.zero else _) = _
  simp only [hnumber, Nat.cast_zero, Bool.false_eq_true, false_or]
  rfl

lemma nanos_scaled {f : ℚ} (hf : 0 ≤ f) :
    (b.scaled f).nanos = cut b.limit.nanos (b.initial.nanos * f) := by
  have hp : 0 ≤ (b.initial.nanos : ℚ) * f := mul_nonneg (Nat.cast_nonneg _) hf
  rw [scaled_eq, cut]
  split
  · rename_i hz
    have hzero : (b.initial.nanos : ℚ) * f = 0 := le_antisymm hz hp
    rw [hzero, Nat.floor_zero]
    split
    · rename_i hlimit
      have hlimit : b.limit.nanos = 0 := Nat.le_zero.mp (by exact_mod_cast hlimit)
      rw [hlimit]
      rfl
    · rfl
  · split
    · rfl
    · exact Scalar.toNat_wholePart _

section

variable {b} {k : Nat}

lemma delay_fixed (hs : b.strategy = .fixed) (hle : b.initial ≤ b.limit) (k : Nat) :
    b.delay k = b.initial := by
  simp only [delay, base, hs]
  exact if_pos hle

lemma nanos_delay_of_scaled {f : ℚ} (hf : 0 ≤ f) (h : b.base k = b.scaled f) :
    (b.delay k).nanos = cut b.limit.nanos (b.initial.nanos * f) := by
  rw [nanos_delay, h, nanos_scaled b hf]
  exact min_eq_left (cut_le _ _)

lemma nanos_delay_linear (hs : b.strategy = .linear) (k : Nat) :
    (b.delay k).nanos = cut b.limit.nanos (b.initial.nanos * k) := by
  refine nanos_delay_of_scaled (Nat.cast_nonneg k) ?_
  simp only [base, hs]
  rfl

lemma nanos_delay_fibonacci (hs : b.strategy = .fibonacci) (k : Nat) :
    (b.delay k).nanos = cut b.limit.nanos (b.initial.nanos * fibonacci k) := by
  refine nanos_delay_of_scaled (Nat.cast_nonneg _) ?_
  simp only [base, hs]
  rfl

lemma nanos_delay_exponential {base : ℚ} (hs : b.strategy = .exponential base) (hbase : 1 ≤ base)
    (hk : 1 ≤ k) : (b.delay k).nanos =
      cut b.limit.nanos (b.initial.nanos * base ^ min (k - 1) 2147483647) := by
  have hk : k ≠ 0 := by omega
  refine nanos_delay_of_scaled (pow_nonneg (by linarith) _) ?_
  simp only [Backoff.base, hs, if_neg hk, Scalar.power_eq]

lemma delay_zero_exponential {base : ℚ} (hs : b.strategy = .exponential base) :
    (b.delay 0).nanos = 0 := by
  rw [nanos_delay]
  simp only [Backoff.base, hs, if_true]
  exact Nat.zero_min _

lemma product_mono {f g : ℚ} (h : f ≤ g) :
    (b.initial.nanos : ℚ) * f ≤ b.initial.nanos * g :=
  mul_le_mul_of_nonneg_left h (Nat.cast_nonneg _)

theorem delay_mono (hfixed : b.strategy = .fixed → b.initial ≤ b.limit)
    (hbase : ∀ base, b.strategy = .exponential base → 1 ≤ base)
    (hlisted : ∀ millis, b.strategy ≠ .custom millis) {j k : Nat} (h : j ≤ k) :
    b.delay j ≤ b.delay k := by
  rw [Duration.le_def]
  cases hs : b.strategy with
  | fixed =>
    rw [delay_fixed hs (hfixed hs), delay_fixed hs (hfixed hs)]
  | linear =>
    rw [nanos_delay_linear hs, nanos_delay_linear hs]
    exact cut_mono (product_mono (by exact_mod_cast h))
  | exponential base =>
    have hone := hbase base hs
    rcases Nat.eq_zero_or_pos j with rfl | hj
    · rw [delay_zero_exponential hs]
      exact Nat.zero_le _
    · rw [nanos_delay_exponential hs hone hj, nanos_delay_exponential hs hone (Nat.le_trans hj h)]
      exact cut_mono (product_mono (pow_le_pow_right₀ hone (by omega)))
  | fibonacci =>
    rw [nanos_delay_fibonacci hs, nanos_delay_fibonacci hs]
    exact cut_mono (product_mono (by exact_mod_cast fibonacci_mono h))
  | custom millis => exact absurd hs (hlisted millis)

lemma mul_fibonacci_eq {n k : Nat} (h : (n : ℚ) * Nat.fib k < 18446744073709551616) :
    (n : ℚ) * fibonacci k = n * Nat.fib k := by
  rcases Nat.eq_zero_or_pos n with rfl | hn
  · simp
  · have hmul : n * Nat.fib k < 18446744073709551616 := by exact_mod_cast h
    have hfits : Nat.fib k ≤ wordMax := by
      have hle : Nat.fib k ≤ n * Nat.fib k := Nat.le_mul_of_pos_left _ hn
      rw [wordMax]
      omega
    rw [fibonacci_eq, min_eq_left hfits]

theorem nanos_delay_eq (hfixed : b.strategy = .fixed → b.initial ≤ b.limit)
    (hbase : ∀ base, b.strategy = .exponential base → 1 ≤ base) (hk : 1 ≤ k) {f : ℚ}
    (hf : b.strategy.factor? k = some f) (hword : b.initial.nanos * f < 18446744073709551616) :
    (b.delay k).nanos = min b.limit.nanos ⌊b.initial.nanos * f⌋₊ := by
  cases hs : b.strategy with
  | fixed =>
    rw [hs] at hf
    cases hf
    rw [delay_fixed hs (hfixed hs), mul_one, Nat.floor_natCast]
    exact (min_eq_right (hfixed hs)).symm
  | linear =>
    rw [hs] at hf
    cases hf
    rw [nanos_delay_linear hs]
    exact cut_eq (by positivity) hword
  | exponential base =>
    rw [hs] at hf
    cases hf
    have hone := hbase base hs
    rw [nanos_delay_exponential hs hone hk]
    exact cut_eq (by positivity) hword
  | fibonacci =>
    rw [hs] at hf
    cases hf
    rw [nanos_delay_fibonacci hs, mul_fibonacci_eq hword]
    exact cut_eq (by positivity) hword
  | custom millis =>
    rw [hs] at hf
    cases hf

lemma listed_eq {millis : List UInt64} (hm : millis ≠ []) (hk : 1 ≤ k) :
    listed millis k = millis[min k millis.length - 1]? := by
  have hlength := List.length_pos_of_ne_nil hm
  unfold listed
  rcases Nat.lt_or_ge millis.length k with hlt | hle
  · rw [List.getElem?_eq_none (by omega), Nat.min_eq_right (by omega), List.getLast?_eq_getElem?]
    rfl
  · rw [List.getElem?_eq_getElem (by omega), Nat.min_eq_left hle,
      List.getElem?_eq_getElem (by omega)]
    rfl

theorem nanos_delay_listed {millis : List UInt64} (hs : b.strategy = .custom millis)
    (hm : millis ≠ []) (hk : 1 ≤ k) : ∃ ms, millis[min k millis.length - 1]? = some ms ∧
      (b.delay k).nanos = min b.limit.nanos (ms.toNat * 1000000) := by
  have hlength := List.length_pos_of_ne_nil hm
  have hms := List.getElem?_eq_getElem (l := millis) (i := min k millis.length - 1) (by omega)
  refine ⟨_, hms, ?_⟩
  rw [nanos_delay]
  simp only [base, hs, listed_eq hm hk, hms]
  exact min_comm _ _

end

end Backoff

namespace BackoffPolicy

structure Sound (p : BackoffPolicy ℚ) : Prop where
  initial_le : p.initialDelay ≤ p.maxDelay
  one_le_base : ∀ base, p.strategy = .exponential base → 1 ≤ base
  listed : ∀ millis, p.strategy = .custom millis → millis ≠ []

lemma sound_of_validate {p : BackoffPolicy ℚ} (h : p.validate = .ok ()) : p.Sound := by
  simp only [validate] at h
  split at h
  · cases h
  · rename_i hle
    refine ⟨Nat.le_of_not_lt hle, fun base hs => ?_, fun millis hs => ?_⟩
    · simp only [hs] at h
      split at h
      · cases h
      · rename_i hbase
        have hone : (((1 : Nat) : ℚ)) ≤ base := le_of_not_gt fun hlt => hbase (.inr hlt)
        rwa [Nat.cast_one] at hone
    · rintro rfl
      simp only [hs] at h
      cases h

structure Schedule (p : BackoffPolicy ℚ) (delay : Nat → Duration) : Prop where
  le_max : ∀ k, delay k ≤ p.maxDelay
  grows : (∀ millis, p.strategy ≠ .custom millis) → ∀ j k, j ≤ k → delay j ≤ delay k
  stays : (∀ millis, p.strategy ≠ .custom millis) →
    ∀ j k, j ≤ k → delay j = p.maxDelay → delay k = p.maxDelay
  exact : ∀ k f, 1 ≤ k → p.strategy.factor? k = some f → p.initialDelay.nanos * f < 2 ^ 64 →
    (delay k).nanos = min p.maxDelay.nanos ⌊p.initialDelay.nanos * f⌋₊
  listed : ∀ millis, p.strategy = .custom millis → ∀ k, 1 ≤ k →
    ∃ ms, millis[min k millis.length - 1]? = some ms ∧
      (delay k).nanos = min p.maxDelay.nanos (ms.toNat * 1000000)

theorem delays_are_exact_and_monotone {p : BackoffPolicy ℚ} (hp : p.validate = .ok ())
    (hj : p.jitter = false) :
    ∃ delay, (∀ draw k, p.delay draw k = .ok (delay k)) ∧ p.Schedule delay := by
  have hsound := sound_of_validate hp
  have hgrows (hlisted : ∀ millis, p.strategy ≠ .custom millis) (j k : Nat) (h : j ≤ k) :
      p.backoff.delay j ≤ p.backoff.delay k :=
    p.backoff.delay_mono (fun _ => hsound.initial_le) hsound.one_le_base hlisted h
  refine ⟨p.backoff.delay, fun draw k => ?_, p.backoff.delay_le, hgrows, ?_, ?_, ?_⟩
  · simp [delay, hj]
  · intro hlisted j k h hmax
    have hle := hgrows hlisted j k h
    rw [hmax] at hle
    exact Duration.ext (Nat.le_antisymm (p.backoff.delay_le k) hle)
  · intro k f hk hf hword
    exact p.backoff.nanos_delay_eq (fun _ => hsound.initial_le) hsound.one_le_base hk hf
      (lt_of_lt_of_eq hword (by norm_num))
  · intro millis hs k hk
    exact Backoff.nanos_delay_listed hs (hsound.listed millis hs) hk

def gentle : BackoffPolicy ℚ where
  maxAttempts := 20
  initialDelay := .ofMillis 100
  maxDelay := .ofSecs 30
  strategy := .exponential (3 / 2)
  jitter := false

theorem gentle_reaches_limit :
    gentle.validate = .ok () ∧ gentle.jitter = false ∧
    ∃ delay : Nat → Duration, (∀ draw k, gentle.delay draw k = .ok (delay k)) ∧
      (delay 3).nanos = 225000000 ∧ delay 4294967295 = gentle.maxDelay := by
  have hp : gentle.validate = .ok () := by decide +kernel
  obtain ⟨delay, hdelay, hs⟩ := delays_are_exact_and_monotone hp rfl
  have hinitial : gentle.initialDelay.nanos = 100000000 := rfl
  have hmax : gentle.maxDelay.nanos = 30000000000 := rfl
  have hlisted : ∀ millis, gentle.strategy ≠ .custom millis := nofun
  have hthird := hs.exact 3 ((3 / 2) ^ 2) (by decide) rfl (by norm_num [hinitial])
  have hlast := hs.exact 16 ((3 / 2) ^ 15) (by decide) rfl (by norm_num [hinitial])
  rw [hinitial, hmax] at hthird hlast
  refine ⟨hp, rfl, delay, hdelay, ?_, hs.stays hlisted 16 4294967295 (by decide) ?_⟩
  · rw [hthird]
    norm_num
  · apply Duration.ext
    rw [hlast, hmax]
    exact min_eq_left (Nat.le_floor (by norm_num))

end BackoffPolicy

end Resilience
