import Mathlib.Data.Nat.Fib.Basic
import Resilience.Backoff

/-! The Fibonacci sequence in words. Both members that the loop carries are cut off at the largest
word, which changes none of the later members that fit. From the 94th member on there is nothing but
the largest word. -/

namespace Resilience

namespace Backoff

lemma fibonacciFrom_eq (n k : Nat) :
    fibonacciFrom n (min (Nat.fib k) wordMax) (min (Nat.fib (k + 1)) wordMax) =
      min (Nat.fib (n + k + 1)) wordMax := by
  induction n generalizing k with
  | zero => rw [fibonacciFrom, Nat.zero_add]
  | succ n ih =>
    rw [fibonacciFrom]
    split
    · rename_i hcut
      have hword : wordMax ≤ Nat.fib k := min_eq_right_iff.mp hcut
      have hnext : Nat.fib k ≤ Nat.fib (k + 1) := Nat.fib_le_fib_succ
      have hlast : Nat.fib k ≤ Nat.fib (n + 1 + k + 1) := Nat.fib_mono (by omega)
      rw [min_eq_right (hword.trans hnext), min_eq_right (hword.trans hlast)]
    · have hsum : min (min (Nat.fib k) wordMax + min (Nat.fib (k + 1)) wordMax) wordMax =
          min (Nat.fib (k + 2)) wordMax := by
        rw [Nat.fib_add_two]
        omega
      have hindex : n + 1 + k + 1 = n + (k + 1) + 1 := by omega
      rw [hsum, ih (k + 1), hindex]

lemma fibonacci_eq (n : Nat) : fibonacci n = min (Nat.fib n) wordMax := by
  match n with
  | 0 | 1 | 2 => decide
  | n + 3 => exact fibonacciFrom_eq (n + 1) 1

lemma fibonacci_mono {m n : Nat} (h : m ≤ n) : fibonacci m ≤ fibonacci n := by
  rw [fibonacci_eq, fibonacci_eq]
  exact min_le_min_right wordMax (Nat.fib_mono h)

def nextTwo (s : Nat × Nat) : Nat × Nat := (s.2, min (s.1 + s.2) wordMax)

lemma nextTwo_iterate (k : Nat) :
    nextTwo^[k] (1, 1) = (fibonacci (k + 1), fibonacci (k + 2)) := by
  induction k with
  | zero => decide
  | succ k ih =>
    rw [Function.iterate_succ_apply', ih, nextTwo, Prod.mk.injEq]
    refine ⟨rfl, ?_⟩
    have hnext : Nat.fib (k + 1 + 2) = Nat.fib (k + 1) + Nat.fib (k + 2) := Nat.fib_add_two
    simp only [fibonacci_eq, hnext]
    omega

lemma fib_lt_wordMax_of_lt {n : Nat} (h : n < 94) : Nat.fib n < wordMax :=
  (Nat.fib_mono (Nat.le_of_lt_succ h)).trans_lt (by decide +kernel : Nat.fib 93 < wordMax)

lemma wordMax_lt_fib_iff (n : Nat) : wordMax < Nat.fib n ↔ 94 ≤ n := by
  constructor
  · intro h
    by_contra hn
    exact (fib_lt_wordMax_of_lt (Nat.lt_of_not_le hn)).not_gt h
  · intro h
    exact (by decide +kernel : wordMax < Nat.fib 94).trans_le (Nat.fib_mono h)

lemma fibonacci_eq_wordMax_iff (n : Nat) : fibonacci n = wordMax ↔ 94 ≤ n := by
  rw [fibonacci_eq, min_eq_right_iff]
  constructor
  · intro h
    by_contra hn
    exact (fib_lt_wordMax_of_lt (Nat.lt_of_not_le hn)).not_ge h
  · intro h
    exact ((wordMax_lt_fib_iff n).2 h).le

theorem fibonacci_is_cut_off :
    (∀ n, fibonacci n = min (Nat.fib n) (2 ^ 64 - 1)) ∧
    (∀ k, nextTwo^[k] (1, 1) = (fibonacci (k + 1), fibonacci (k + 2))) ∧
    Monotone fibonacci ∧
    ∀ n, (2 ^ 64 - 1 < Nat.fib n ↔ 94 ≤ n) ∧ (fibonacci n = 2 ^ 64 - 1 ↔ 94 ≤ n) :=
  ⟨fibonacci_eq, nextTwo_iterate, fun _ _ => fibonacci_mono,
    fun n => ⟨wordMax_lt_fib_iff n, fibonacci_eq_wordMax_iff n⟩⟩

end Backoff

end Resilience
