import Resilience.Duration

/-! Virtual time. Instants are nanoseconds since the clock was started. Timers look at the last
whole millisecond the clock has announced, so a timer never fires before its instant but may fire up
to a millisecond late. -/

namespace Resilience

namespace Instant

def millisecond : Nat := 1000000

/-- Instants must stay below `2 ^ 63` seconds. -/
def horizon : Nat := 9223372036854775808000000000

/-- Thirty years: where a wait ends whose end cannot be represented. -/
def farAway : Nat := 946080000000000000

def ceilTick (x : Nat) : Nat := (x + (millisecond - 1)) / millisecond

end Instant

structure Clock where
  now : Nat
  /-- The last millisecond announced to timers. -/
  tick : Nat
  tick_le : tick * Instant.millisecond ≤ now

namespace Clock

open Instant (millisecond)

def start : Clock := ⟨0, 0, Nat.le_refl _⟩

instance : Inhabited Clock := ⟨start⟩

/-- A timer for `x` has fired: the first millisecond not before `x` was announced. -/
def passed (c : Clock) (x : Nat) : Bool := x ≤ c.tick * millisecond

/-- Time goes by unannounced. -/
def spend (c : Clock) (d : Duration) : Clock :=
  { c with now := c.now + d.nanos, tick_le := Nat.le_trans c.tick_le (Nat.le_add_right ..) }

def floorTick (c : Clock) : Nat := c.now / millisecond

def announce (c : Clock) : Clock :=
  { c with tick := c.now / millisecond, tick_le := Nat.div_mul_le_self .. }

/-- Moves on by whole milliseconds to the millisecond `t`, unless it is past, and announces it. -/
def jump (c : Clock) (t : Nat) : Clock :=
  announce { c with
    now := c.now + (t - c.floorTick) * millisecond
    tick_le := Nat.le_trans c.tick_le (Nat.le_add_right ..) }

def deadline? (c : Clock) (d : Duration) : Option Nat :=
  if c.now + d.nanos < Instant.horizon then some (c.now + d.nanos) else none

def wake (c : Clock) (d : Duration) : Nat :=
  (c.deadline? d).getD (c.now + Instant.farAway)

theorem now_le_spend (c : Clock) (d : Duration) : c.now ≤ (c.spend d).now := Nat.le_add_right ..

theorem le_now_of_passed {c : Clock} {x : Nat} (h : c.passed x = true) : x ≤ c.now :=
  Nat.le_trans (of_decide_eq_true h) c.tick_le

end Clock

end Resilience
