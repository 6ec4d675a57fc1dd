import Songbook.Json.Numeral
import Songbook.Number.Hex

/-!
# JSON

The tree of a JSON text, and its one written form without spaces.
-/

namespace Songbook

inductive Json where
  | null
  | bool (b : Bool)
  | number (n : Numeral)
  | string (s : String)
  | array (items : List Json)
  /-- Members in the order of the text, repeated keys included. -/
  | object (members : List (String × Json))
  /-- A string, or an object with a key, that holds half of a surrogate pair: well formed, but not a
  text. -/
  | garbled

namespace Json

def writeChar (c : Char) : List Char :=
  match c with
  | '"' => ['\\', '"']
  | '\\' => ['\\', '\\']
  | '\x08' => ['\\', 'b']
  | '\x0c' => ['\\', 'f']
  | '\n' => ['\\', 'n']
  | '\r' => ['\\', 'r']
  | '\t' => ['\\', 't']
  | c =>
    if c.toNat < 0x20 then ['\\', 'u', '0', '0'] ++ Number.hexOfByte (UInt8.ofNat c.toNat) else [c]

def writeString (s : String) : List Char :=
  '"' :: s.toList.flatMap writeChar ++ ['"']

mutual

def writeChars : Json → List Char
  | null | garbled => "null".toList
  | bool b => (if b then "true" else "false").toList
  | number n => n.write
  | string s => writeString s
  | array items => '[' :: writeItems items ++ [']']
  | object members => '\x7b' :: writeMembers members ++ ['\x7d']

def writeItems : List Json → List Char
  | [] => []
  | [item] => writeChars item
  | item :: rest => writeChars item ++ ',' :: writeItems rest

def writeMembers : List (String × Json) → List Char
  | [] => []
  | [(key, item)] => writeString key ++ ':' :: writeChars item
  | (key, item) :: rest => writeString key ++ ':' :: writeChars item ++ ',' :: writeMembers rest

end

def write (json : Json) : String :=
  String.ofList json.writeChars

end Json

end Songbook
