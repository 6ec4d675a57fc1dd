import Songbook.Number.Decimal
import Songbook.Number.Power

/-!
# Decimals of 128 bits

Sixteen bytes, least significant first, hold a decimal of up to 34 digits, infinity or what is not a
number. From the top they hold a sign, a biased exponent of 14 bits and a coefficient of 113 bits.
-/

namespace Songbook.Number

inductive Decimal128 where
  | nan
  | infinity (negative : Bool)
  | finite (d : Decimal)

namespace Decimal128

/-- Five bits after the sign tell infinity and what is not a number. An exponent that follows two
further bits leaves more to the coefficient than 34 digits hold, and such a coefficient is zero. -/
def ofBytes (bytes : List UInt8) : Decimal128 :=
  let word := bytes.foldr (fun b n => b.toNat + 256 * n) 0
  let negative := word / twoTo 127 % 2 == 1
  let lead := word / twoTo 122 % 32
  let exponent (shift : Nat) : Int := (word / twoTo shift % twoTo 14 : Nat) - 6176
  let coefficient := word % twoTo 113
  if lead = 31 then nan
  else if lead = 30 then infinity negative
  else if 24 ≤ lead then finite ⟨negative, [0], exponent 111⟩
  else if coefficient < tenTo 34 then finite ⟨negative, digitsOf coefficient, exponent 113⟩
  else finite ⟨negative, [0], exponent 113⟩

def write : Decimal128 → List Char
  | nan => "NaN".toList
  | infinity negative => (if negative then ['-'] else []) ++ "Infinity".toList
  | finite d => d.write

end Decimal128

end Songbook.Number
