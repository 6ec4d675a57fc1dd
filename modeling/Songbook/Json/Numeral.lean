import Songbook.Number.Digits
import Songbook.Number.Shortest

/-!
# Numerals

Numbers as JSON writes them: a whole part without leading zeros, digits after a point, a power of
ten.
-/

namespace Songbook

structure Numeral where
  negative : Bool
  whole : Nat
  fraction : List Nat := []
  power : Option Int := none
  deriving DecidableEq

namespace Numeral

open Number

def ofInt (i : Int) : Numeral :=
  { negative := i < 0, whole := i.natAbs }

/-- The numeral of `± n · 10 ^ exponent`: positional if its point is not far from its digits, with a
power of ten otherwise. It always has a point or a power, which tells a double from an integer. -/
def ofDecimal (negative : Bool) (n : Nat) (exponent : Int) : Numeral :=
  let digits := digitsOf n
  let point := digits.length + exponent
  if 0 ≤ exponent ∧ point ≤ 16 then
    { negative, whole := n * tenTo exponent.toNat, fraction := [0] }
  else if 0 < point ∧ point ≤ 16 then
    { negative, whole := ofDigits (digits.take point.toNat), fraction := digits.drop point.toNat }
  else if -5 < point ∧ point ≤ 0 then
    { negative, whole := 0, fraction := List.replicate point.natAbs 0 ++ digits }
  else
    { negative, whole := digits.headD 0, fraction := digits.tail, power := some (point - 1) }

def ofDouble? : Double → Option Numeral
  | .nan => none
  | .signed negative rank _ =>
    if rank = Double.infinityRank then none
    else if rank = 0 then some (ofDecimal negative 0 0)
    else
      let (n, exponent) := shortest rank
      some (ofDecimal negative n exponent)

def writePower : Option Int → List Char
  | none => []
  | some p => 'e' :: (if p < 0 then '-' else '+') :: writeNat p.natAbs

def write (n : Numeral) : List Char :=
  (if n.negative then ['-'] else []) ++ writeNat n.whole ++ writeFraction n.fraction ++
    writePower n.power

def readWhole? (cs : List Char) : Option (Nat × List Char) :=
  match takeDigits cs with
  | ([], _) | (0 :: _ :: _, _) => none
  | (digits, rest) => some (ofDigits digits, rest)

def readFraction? : List Char → Option (List Nat × List Char)
  | '.' :: cs => match takeDigits cs with
    | ([], _) => none
    | (digits, rest) => some (digits, rest)
  | cs => some ([], cs)

def readPower? : List Char → Option (Option Int × List Char)
  | c :: cs =>
    if c = 'e' ∨ c = 'E' then
      let (negative, cs) := takeSign cs
      match takeDigits cs with
      | ([], _) => none
      | (digits, rest) =>
        some (some (if negative then -(ofDigits digits) else ofDigits digits), rest)
    else some (none, c :: cs)
  | [] => some (none, [])

def read? (cs : List Char) : Option (Numeral × List Char) := do
  let (negative, cs) := match cs with
    | '-' :: cs => (true, cs)
    | cs => (false, cs)
  let (whole, cs) ← readWhole? cs
  let (fraction, cs) ← readFraction? cs
  let (power, cs) ← readPower? cs
  return (⟨negative, whole, fraction, power⟩, cs)

def takeSignificant (n : Nat) : List Nat → Nat × List Nat
  | [] => (n, [])
  | d :: rest =>
    if 10 * n + d < wordLimit then takeSignificant (10 * n + d) rest else (n, d :: rest)

/-- The significand and the power of ten of a numeral. Digits that the significand has no room for
are dropped, and only those of the whole part leave their place behind. -/
def significand (n : Numeral) : Nat × Int :=
  let (whole, dropped) := takeSignificant 0 (digitsOf n.whole)
  let (all, unused) := takeSignificant whole n.fraction
  (all, n.power.getD 0 + dropped.length - (n.fraction.length - unused.length : Nat))

def divideByTens (rank power : Nat) : Nat :=
  if power ≤ 308 then Double.divRank rank (Double.rankOfNat (tenTo power))
  else if rank = 0 then 0
  else divideByTens (Double.divRank rank (Double.rankOfNat (tenTo 308))) (power - 308)
termination_by power

/-- The double of a numeral: the significand, rounded, times or over a power of ten, rounded again.
None if it is beyond all finite doubles. -/
def toDouble? (n : Numeral) : Option Double :=
  let (significand, power) := n.significand
  let rank := Double.rankOfNat significand
  let scaled :=
    if power < 0 then divideByTens rank power.natAbs
    else if rank = 0 then 0
    else if power > 308 then Double.infinityRank
    else Double.mulRank rank (Double.rankOfNat (tenTo power.toNat))
  if scaled < Double.infinityRank then some (.ofRank n.negative scaled) else none

def toInt? (n : Numeral) : Option Int :=
  if n.fraction.isEmpty && n.power.isNone then some (if n.negative then -n.whole else n.whole)
  else none

end Numeral

end Songbook
