import Songbook.Number.Hex
import Songbook.Text.Hidden

/-!
# Quoted texts

A text between double quotes in which every character can be seen: quotes, backslashes and common
controls have short escapes, other hidden characters are written by their code point.
-/

namespace Songbook.Text

def quoteChar (c : Char) : List Char :=
  match c with
  | '\x00' => ['\\', '0']
  | '\t' => ['\\', 't']
  | '\r' => ['\\', 'r']
  | '\n' => ['\\', 'n']
  | '\\' => ['\\', '\\']
  | '"' => ['\\', '"']
  | c => if isHidden c then ['\\', 'u', '\x7b'] ++ Number.hexOf c.toNat ++ ['\x7d'] else [c]

def quote (s : String) : String :=
  String.ofList ('"' :: s.toList.flatMap quoteChar ++ ['"'])

end Songbook.Text
