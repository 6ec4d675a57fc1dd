import Songbook.Number.Power

/-!
# Binary floating-point numbers of double precision

The non-negative doubles, infinity included, are counted in increasing order from zero: the *rank*
of a double is its place in that count, which is also what its bits spell when the sign is left out.
A finite magnitude is a whole number of *units*, the smallest positive double `2 ^ -1074`; so order,
sums and rounding are arithmetic on integers.
-/

namespace Songbook

/-- A double: a sign and a rank, up to that of infinity; all values that are not numbers are one. -/
inductive Double where
  | nan
  | signed (negative : Bool) (rank : Nat) (rank_le : rank ≤ 0x7FF0000000000000)
  deriving DecidableEq

namespace Double

open Number

def infinityRank : Nat := 0x7FF0000000000000

def ofRank (negative : Bool) (rank : Nat) : Double :=
  .signed negative (min rank infinityRank) (Nat.min_le_right _ _)

def zero : Double := ofRank false 0

def infinity (negative : Bool) : Double := ofRank negative infinityRank

def signBit : Nat := 0x8000000000000000

def ofBits (bits : UInt64) : Double :=
  let rank := bits.toNat % signBit
  if rank ≤ infinityRank then ofRank (bits.toNat ≥ signBit) rank else .nan

def toBits : Double → UInt64
  | .nan => 0x7FF8000000000000
  | .signed negative rank _ => UInt64.ofNat ((if negative then signBit else 0) + rank)

/-- How many doubles lie between a power of two and the next. -/
def binade : Nat := 0x10000000000000

def unitsInOne : Nat := twoTo 1074

def unitsOfRank (rank : Nat) : Nat :=
  if rank < binade then rank else (binade + rank % binade) * twoTo (rank / binade - 1)

def roundHalfEven (num den : Nat) : Nat :=
  if den < 2 * (num % den) ∨ (2 * (num % den) = den ∧ num / den % 2 = 1) then num / den + 1
  else num / den

/-- The rank of the double nearest to `num / den` units, a tie going to the even rank. -/
def rankOfUnits (num den : Nat) : Nat :=
  let shift := (num / den).log2 - 52
  shift * binade + roundHalfEven num (den * twoTo shift)

def rankOfNat (n : Nat) : Nat :=
  rankOfUnits (n * unitsInOne) 1

def mulRank (a b : Nat) : Nat :=
  rankOfUnits (unitsOfRank a * unitsOfRank b) unitsInOne

def divRank (a b : Nat) : Nat :=
  rankOfUnits (unitsOfRank a * unitsInOne) (unitsOfRank b)

def ofRatio (negative : Bool) (num den : Nat) : Double :=
  ofRank negative (rankOfUnits (num * unitsInOne) den)

def ofInt (i : Int) : Double :=
  ofRatio (i < 0) i.natAbs 1

def isFinite : Double → Bool
  | .nan => false
  | .signed _ rank _ => rank < infinityRank

/-- The place of a number among all doubles; both zeros have place zero. -/
def place? : Double → Option Int
  | .nan => none
  | .signed negative rank _ => some (if negative then -rank else rank)

def compare? (a b : Double) : Option Ordering := do
  let p ← a.place?
  let q ← b.place?
  return compare p q

def neg : Double → Double
  | .nan => .nan
  | .signed negative rank h => .signed (!negative) rank h

def signedUnits (negative : Bool) (rank : Nat) : Int :=
  if negative then -(unitsOfRank rank) else unitsOfRank rank

/-- The exact sum, rounded once. A sum of zero is negative only if both terms are. -/
def add : Double → Double → Double
  | .nan, _ => .nan
  | _, .nan => .nan
  | .signed n r h, .signed m s k =>
    if r = infinityRank then
      if s = infinityRank ∧ n ≠ m then .nan else .signed n r h
    else if s = infinityRank then .signed m s k
    else
      let sum := signedUnits n r + signedUnits m s
      if sum = 0 then ofRank (n && m) 0 else ofRank (sum < 0) (rankOfUnits sum.natAbs 1)

def sub (a b : Double) : Double :=
  a.add b.neg

def toNat? : Double → Option Nat
  | .nan => none
  | .signed negative rank _ =>
    if rank = infinityRank ∨ (negative ∧ rank ≠ 0) ∨ unitsOfRank rank % unitsInOne ≠ 0 then
      none
    else some (unitsOfRank rank / unitsInOne)

end Double

end Songbook
