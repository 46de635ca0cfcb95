import Resilience.Simulation.Attempt
import Resilience.Number.Text

namespace Resilience

structure Injector where
  rate : Float
  longest : UInt64
  generator : StdGen

namespace Injector

def longestOf (meanMillis : UInt64) : UInt64 :=
  if 9223372036854775808 ≤ meanMillis then 18446744073709551615 else 2 * meanMillis

def create (rate : Float) (meanMillis : UInt64) (seed : Nat) : Except String Injector :=
  if 0 ≤ rate ∧ rate ≤ 1 then
    .ok { rate, longest := longestOf meanMillis, generator := mkStdGen seed }
  else .error ("failure rate must be between 0 and 1, got " ++ Number.plain rate)

/-- Random numbers below one are multiples of `2 ^ -53`. -/
def grain : Nat := 9007199254740992

def unit (i : Injector) : Float × Injector :=
  let (n, generator) := randNat i.generator 0 (grain - 1)
  (n.toFloat / grain.toFloat, { i with generator })

def draw (i : Injector) : Attempt × Injector :=
  let (x, i) := i.unit
  let (millis, generator) := randNat i.generator 0 i.longest.toNat
  (⟨.ofMillis millis.toUInt64, x < i.rate⟩, { i with generator })

def draws (i : Injector) : Nat → List Attempt
  | 0 => []
  | n + 1 => i.draw.1 :: i.draw.2.draws n

def spread (i : Injector) : Float × Injector :=
  let (x, i) := i.unit
  (0.8 + 0.4 * x, i)

end Injector

end Resilience
