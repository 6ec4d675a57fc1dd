import Songbook.Number.Digits
import Songbook.Number.Double

/-!
# Decimal texts

The text of a number: digits with an optional point and an optional power of ten, or the name of
infinity or of what is not a number. A decimal text denotes the double nearest to its value.
-/

namespace Songbook.Number

/-- The value `± digits · 10 ^ exponent`. -/
structure Decimal where
  negative : Bool
  digits : List Nat
  exponent : Int

namespace Decimal

/-- The nearest double. Values far beyond the range are settled before the power of ten is taken. -/
def toDouble (d : Decimal) : Double :=
  let n := ofDigits d.digits
  if n = 0 ∨ d.digits.length + d.exponent < -400 then .ofRank d.negative 0
  else if d.exponent > 400 then .infinity d.negative
  else if d.exponent < 0 then .ofRatio d.negative n (tenTo d.exponent.natAbs)
  else .ofRatio d.negative (n * tenTo d.exponent.natAbs) 1

def leading (d : Decimal) : Int :=
  d.digits.length + d.exponent - 1

def writePlain (d : Decimal) : List Char :=
  let places := d.exponent.natAbs
  let digits := List.replicate (places + 1 - d.digits.length) 0 ++ d.digits
  let whole := digits.length - places
  digitChars (digits.take whole) ++ writeFraction (digits.drop whole)

def writeScaled (d : Decimal) : List Char :=
  digitChars (d.digits.take 1) ++ writeFraction (d.digits.drop 1) ++
    'E' :: (if 0 < d.leading then ['+'] else []) ++ writeInt d.leading

/-- A text that keeps every digit and the exponent: plain unless zeros would have to follow the
digits or more than five would stand between the point and the first of them. -/
def write (d : Decimal) : List Char :=
  (if d.negative then ['-'] else []) ++
    if d.exponent ≤ 0 ∧ -6 ≤ d.leading then d.writePlain else d.writeScaled

end Decimal

def readPower? : List Char → Option Int
  | [] => some 0
  | c :: rest => if c.toLower = 'e' then readInt? rest else none

def readDecimal? (negative : Bool) (cs : List Char) : Option Decimal :=
  let (whole, rest) := takeDigits cs
  let (fraction, rest) := match rest with
    | '.' :: rest => takeDigits rest
    | _ => ([], rest)
  if whole.isEmpty && fraction.isEmpty then none
  else (readPower? rest).map fun power =>
    ⟨negative, whole ++ fraction, power - fraction.length⟩

def readDouble? (cs : List Char) : Option Double :=
  let (negative, rest) := takeSign cs
  let word := String.ofList (rest.map Char.toLower)
  if word = "nan" then some .nan
  else if word = "inf" ∨ word = "infinity" then some (.infinity negative)
  else (readDecimal? negative rest).map Decimal.toDouble

end Songbook.Number
