import Songbook.Number.Digits
import Songbook.Number.Double

/-!
# Shortest decimals

The shortest decimal that reads back as a given double is a point of the coarsest decimal grid that
has a point among the reals which round to that double; of two such points the nearer one is taken,
of two equally near ones the even one.
-/

namespace Songbook.Number

/-- The reals that round to one double, in halves of a unit: from `low` to `high` around `value`,
with both ends if `closed`. -/
structure RoundingInterval where
  low : Nat
  value : Nat
  high : Nat
  closed : Bool

def roundingInterval (rank : Nat) : RoundingInterval :=
  let here := Double.unitsOfRank rank
  ⟨Double.unitsOfRank (rank - 1) + here, 2 * here, here + Double.unitsOfRank (rank + 1),
    rank % 2 == 0⟩

def RoundingInterval.has (interval : RoundingInterval) (num den : Nat) : Bool :=
  if interval.closed then interval.low * den ≤ num && num ≤ interval.high * den
  else interval.low * den < num && num < interval.high * den

def gridStep (exponent : Int) : Nat × Nat :=
  if exponent < 0 then (twoTo 1075, tenTo exponent.natAbs)
  else (twoTo 1075 * tenTo exponent.natAbs, 1)

def nearestOnGrid? (interval : RoundingInterval) (exponent : Int) : Option Nat :=
  let (step, den) := gridStep exponent
  let value := interval.value * den
  let below := value / step
  let inside (n : Nat) : Bool := interval.has (n * step) den
  match inside below && below != 0, inside (below + 1) with
  | true, true => some (Double.roundHalfEven value step)
  | true, false => some below
  | false, true => some (below + 1)
  | false, false => none

def coarsest (interval : RoundingInterval) : Nat → Int → Nat × Int
  | 0, exponent => (0, exponent)
  | grids + 1, exponent => match nearestOnGrid? interval exponent with
    | some n => (n, exponent)
    | none => coarsest interval grids (exponent - 1)

/-- A natural number and a power of ten whose product is the shortest decimal of a positive finite
double. Its length is at most seventeen digits, so that thirty grids are more than enough. -/
def shortest (rank : Nat) : Nat × Int :=
  let interval := roundingInterval rank
  coarsest interval 30 (((interval.value.log2 : Int) - 1074) * 30103 / 100000 + 2)

end Songbook.Number
