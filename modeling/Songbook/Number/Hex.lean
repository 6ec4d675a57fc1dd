/-!
# Hexadecimal digits
-/

namespace Songbook.Number

def hexDigits : List Char := "0123456789abcdef".toList

def hexChar (d : Nat) : Char :=
  hexDigits.getD d '0'

def hexDigit? (c : Char) : Option Nat :=
  hexDigits.findIdx? (· == c.toLower)

def hexOf (n : Nat) : List Char :=
  if n < 16 then [hexChar n] else hexOf (n / 16) ++ [hexChar (n % 16)]

def hexOfByte (b : UInt8) : List Char :=
  [hexChar (b.toNat / 16), hexChar (b.toNat % 16)]

def byteOfHex? (high low : Char) : Option UInt8 := do
  let h ← hexDigit? high
  let l ← hexDigit? low
  return UInt8.ofNat (16 * h + l)

def bytesOfHex? : List Char → Option (List UInt8)
  | [] => some []
  | [_] => none
  | high :: low :: rest => do
    let b ← byteOfHex? high low
    let bs ← bytesOfHex? rest
    return b :: bs

end Songbook.Number
