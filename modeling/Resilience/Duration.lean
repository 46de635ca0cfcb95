/-! Lengths of time in whole nanoseconds. The longest one has `2 ^ 64 - 1` seconds and
`10 ^ 9 - 1` nanoseconds; sums that could pass it either saturate or are refused. -/

namespace Resilience

def Duration.maxNanos : Nat := 18446744073709551615999999999

structure Duration where
  nanos : Nat
  nanos_le : nanos ≤ Duration.maxNanos
deriving DecidableEq

namespace Duration

def ofNanos? (n : Nat) : Option Duration := if h : n ≤ maxNanos then some ⟨n, h⟩ else none

def saturating (n : Nat) : Duration := ⟨min n maxNanos, Nat.min_le_right ..⟩

def zero : Duration := ⟨0, Nat.zero_le _⟩
def longest : Duration := ⟨maxNanos, Nat.le_refl _⟩

def ofSecs (n : UInt32) : Duration :=
  ⟨n.toNat * 1000000000, by have := n.toNat_lt; unfold maxNanos; omega⟩
def ofMillis (n : UInt64) : Duration :=
  ⟨n.toNat * 1000000, by have := n.toNat_lt; unfold maxNanos; omega⟩
def ofNanos (n : UInt64) : Duration := ⟨n.toNat, by have := n.toNat_lt; unfold maxNanos; omega⟩

instance : Inhabited Duration := ⟨zero⟩
instance : LE Duration := ⟨fun a b => a.nanos ≤ b.nanos⟩
instance : LT Duration := ⟨fun a b => a.nanos < b.nanos⟩
instance (a b : Duration) : Decidable (a ≤ b) := inferInstanceAs (Decidable (a.nanos ≤ b.nanos))
instance (a b : Duration) : Decidable (a < b) := inferInstanceAs (Decidable (a.nanos < b.nanos))
instance : Min Duration := ⟨fun a b => if a ≤ b then a else b⟩
instance : Max Duration := ⟨fun a b => if a ≤ b then b else a⟩

def seconds (d : Duration) : Nat := d.nanos / 1000000000
def subsecNanos (d : Duration) : Nat := d.nanos % 1000000000
def isZero (d : Duration) : Bool := d.nanos == 0

def sub (a b : Duration) : Duration := ⟨a.nanos - b.nanos, Nat.le_trans (Nat.sub_le ..) a.nanos_le⟩

def mul? (a : Duration) (k : Nat) : Option Duration := ofNanos? (a.nanos * k)

theorem le_def {a b : Duration} : a ≤ b ↔ a.nanos ≤ b.nanos := Iff.rfl
theorem lt_def {a b : Duration} : a < b ↔ a.nanos < b.nanos := Iff.rfl

@[ext] theorem ext {a b : Duration} (h : a.nanos = b.nanos) : a = b := by
  cases a; cases b; simp_all

theorem nanos_min (a b : Duration) : (min a b).nanos = min a.nanos b.nanos := by
  show (if a ≤ b then a else b).nanos = _
  split <;> rename_i h <;> rw [le_def] at h <;> omega

/-- The digits of `n` after a decimal point of `width` places, without the zeros at the end. -/
def fraction (width n : Nat) : String :=
  let digits := (toString n).toList
  let padded := List.replicate (width - digits.length) '0' ++ digits
  match (padded.reverse.dropWhile (· == '0')).reverse with
  | [] => ""
  | kept => "." ++ String.ofList kept

/-- The largest unit among s, ms, µs and ns with a whole part, then the exact fraction: `1.5ms`. -/
def brief (d : Duration) : String :=
  let n := d.nanos
  let unit (size width : Nat) (name : String) :=
    toString (n / size) ++ fraction width (n % size) ++ name
  if n ≥ 1000000000 then unit 1000000000 9 "s"
  else if n ≥ 1000000 then unit 1000000 6 "ms"
  else if n ≥ 1000 then unit 1000 3 "µs"
  else toString n ++ "ns"

end Duration

end Resilience
