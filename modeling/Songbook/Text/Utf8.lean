/-!
# UTF-8

Bytes as text. Wherever the bytes are not well formed, the longest run that could have begun a
character is replaced as a whole.
-/

namespace Songbook.Text

/-- A character of which some bytes are missing: their number, the range of the next one and the
value of those that came. -/
structure Pending where
  missing : Nat
  low : Nat
  high : Nat
  value : Nat

def replacement : Char := '\uFFFD'

def beginByte (b : Nat) : List Char × Option Pending :=
  if b < 0x80 then ([Char.ofNat b], none)
  else if b < 0xC2 then ([replacement], none)
  else if b < 0xE0 then ([], some ⟨1, 0x80, 0xBF, b - 0xC0⟩)
  else if b < 0xF0 then
    ([], some ⟨2, if b = 0xE0 then 0xA0 else 0x80, if b = 0xED then 0x9F else 0xBF, b - 0xE0⟩)
  else if b < 0xF5 then
    ([], some ⟨3, if b = 0xF0 then 0x90 else 0x80, if b = 0xF4 then 0x8F else 0xBF, b - 0xF0⟩)
  else ([replacement], none)

def continueByte (before : Pending) (b : Nat) : List Char × Option Pending :=
  if before.low ≤ b ∧ b ≤ before.high then
    let value := before.value * 64 + (b - 0x80)
    if before.missing = 1 then ([Char.ofNat value], none)
    else ([], some ⟨before.missing - 1, 0x80, 0xBF, value⟩)
  else
    let (chars, next) := beginByte b
    (replacement :: chars, next)

def decodeFrom (before : Option Pending) : List UInt8 → List Char
  | [] => if before.isSome then [replacement] else []
  | b :: rest =>
    let (chars, next) := match before with
      | none => beginByte b.toNat
      | some before => continueByte before b.toNat
    chars ++ decodeFrom next rest

def decodeLossy (bytes : List UInt8) : String :=
  String.ofList (decodeFrom none bytes)

end Songbook.Text
