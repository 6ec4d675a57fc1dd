import Songbook.Json.Basic

/-!
# Reading JSON

The tree of a text. Blanks may stand around every part; nothing else is passed over.
-/

namespace Songbook.Json

open Number

def skipBlanks (cs : List Char) : List Char :=
  cs.dropWhile fun c => c == ' ' || c == '\n' || c == '\r' || c == '\t'

def escaped? : Char → Option Char
  | '"' => some '"'
  | '\\' => some '\\'
  | '/' => some '/'
  | 'b' => some '\x08'
  | 'f' => some '\x0c'
  | 'n' => some '\n'
  | 'r' => some '\r'
  | 't' => some '\t'
  | _ => none

def unit? (a b c d : Char) : Option Nat := do
  let high ← byteOfHex? a b
  let low ← byteOfHex? c d
  return 256 * high.toNat + low.toNat

def isHighSurrogate (unit : Nat) : Bool :=
  0xD800 ≤ unit && unit ≤ 0xDBFF

def isLowSurrogate (unit : Nat) : Bool :=
  0xDC00 ≤ unit && unit ≤ 0xDFFF

def joinSurrogates (high low : Nat) : Char :=
  Char.ofNat (0x10000 + (high - 0xD800) * 0x400 + (low - 0xDC00))

/-- The characters of a string, or none where half of a surrogate pair stands alone, with the text
after the closing quote. -/
abbrev StringRead := Option (List Char) × List Char

def StringRead.push (c : Char) (read : StringRead) : StringRead :=
  (read.1.map (c :: ·), read.2)

def StringRead.garble (read : StringRead) : StringRead :=
  (none, read.2)

def readString? : List Char → Option StringRead
  | [] => none
  | '"' :: rest => some (some [], rest)
  | '\\' :: 'u' :: a :: b :: c :: d :: '\\' :: 'u' :: e :: f :: g :: h :: rest =>
    match unit? a b c d, unit? e f g h with
    | some high, some low =>
      if isHighSurrogate high && isLowSurrogate low then
        (readString? rest).map (StringRead.push (joinSurrogates high low))
      else if isHighSurrogate high || isLowSurrogate high then
        (readString? ('\\' :: 'u' :: e :: f :: g :: h :: rest)).map StringRead.garble
      else
        (readString? ('\\' :: 'u' :: e :: f :: g :: h :: rest)).map
          (StringRead.push (Char.ofNat high))
    | _, _ => none
  | '\\' :: 'u' :: a :: b :: c :: d :: rest => do
    let unit ← unit? a b c d
    if isHighSurrogate unit || isLowSurrogate unit then (readString? rest).map StringRead.garble
    else (readString? rest).map (StringRead.push (Char.ofNat unit))
  | '\\' :: c :: rest => do
    let e ← escaped? c
    (readString? rest).map (StringRead.push e)
  | c :: rest =>
    if c.toNat < 0x20 ∨ c = '\\' then none else (readString? rest).map (StringRead.push c)

def readName? (cs : List Char) : Option (Json × List Char) :=
  if "null".toList.isPrefixOf cs then some (null, cs.drop 4)
  else if "true".toList.isPrefixOf cs then some (bool true, cs.drop 4)
  else if "false".toList.isPrefixOf cs then some (bool false, cs.drop 5)
  else none

def objectOf (members : List (Option (List Char) × Json)) : Json :=
  match members.mapM fun (key, item) => key.map fun k => (String.ofList k, item) with
  | some members => object members
  | none => garbled

mutual

def readValue? : Nat → List Char → Option (Json × List Char)
  | 0, _ => none
  | steps + 1, cs => match skipBlanks cs with
    | '"' :: rest => (readString? rest).map fun (s, rest) =>
      (match s with
        | some s => string (String.ofList s)
        | none => garbled, rest)
    | '[' :: rest => match skipBlanks rest with
      | ']' :: rest => some (array [], rest)
      | rest => (readItems? steps rest).map fun (items, rest) => (array items, rest)
    | '\x7b' :: rest => match skipBlanks rest with
      | '\x7d' :: rest => some (object [], rest)
      | rest => (readMembers? steps rest).map fun (members, rest) => (objectOf members, rest)
    | cs => match readName? cs with
      | some read => some read
      | none => (Numeral.read? cs).map fun (n, rest) => (number n, rest)

def readItems? : Nat → List Char → Option (List Json × List Char)
  | 0, _ => none
  | steps + 1, cs => do
    let (item, rest) ← readValue? steps cs
    match skipBlanks rest with
    | ',' :: rest => (readItems? steps rest).map fun (items, rest) => (item :: items, rest)
    | ']' :: rest => some ([item], rest)
    | _ => none

def readMembers? : Nat → List Char → Option (List (Option (List Char) × Json) × List Char)
  | 0, _ => none
  | steps + 1, cs => do
    let (key, rest) ← match skipBlanks cs with
      | '"' :: rest => readString? rest
      | _ => none
    let rest ← match skipBlanks rest with
      | ':' :: rest => some rest
      | _ => none
    let (item, rest) ← readValue? steps rest
    match skipBlanks rest with
    | ',' :: rest => (readMembers? steps rest).map fun (members, rest) =>
      ((key, item) :: members, rest)
    | '\x7d' :: rest => some ([(key, item)], rest)
    | _ => none

end

/-- Reads a whole text. Every bracket and every item takes a character and at most two steps, so the
steps do not run out. -/
def read? (text : String) : Option Json :=
  let cs := text.toList
  match readValue? (2 * cs.length + 2) cs with
  | some (json, rest) => if (skipBlanks rest).isEmpty then some json else none
  | none => none

end Songbook.Json
