import Songbook.Number.Hex
import Songbook.Text.Pieces
import Songbook.Text.Utf8

/-!
# Targets and forms

The target of a request is a path and a query. A query is a form: pieces between ampersands, each a
key and a value, with a plus for every space and a percent sign before two hexadecimal digits for
any byte.
-/

namespace Songbook.Web

/-- The bytes that a part of a form stands for. A percent sign without two digits is itself. -/
def formBytes : List Char → List UInt8
  | [] => []
  | '%' :: a :: b :: rest => match Number.byteOfHex? a b with
    | some byte => byte :: formBytes rest
    | none => 0x25 :: formBytes (a :: b :: rest)
  | '+' :: rest => 0x20 :: formBytes rest
  | c :: rest => String.utf8EncodeChar c ++ formBytes rest

def decodePart (cs : List Char) : String :=
  Text.decodeLossy (formBytes cs)

def splitPiece (piece : List Char) : List Char × List Char :=
  (piece.takeWhile (· != '='), (piece.dropWhile (· != '=')).drop 1)

def decodePiece (piece : List Char) : String × String :=
  let (key, value) := splitPiece piece
  (decodePart key, decodePart value)

def formPairs (query : List Char) : List (String × String) :=
  ((Text.piecesOf '&' query).filter (!·.isEmpty)).map decodePiece

structure Target where
  path : String
  pairs : List (String × String)

def isSchemeChar (c : Char) : Bool :=
  c.isAlphanum || "+-.~".toList.contains c

def localPart (target : List Char) : List Char :=
  match target.dropWhile isSchemeChar with
  | ':' :: '/' :: '/' :: rest => rest.dropWhile fun c => c != '/' && c != '?'
  | _ => target

/-- A query begins after the first question mark, and both end at a hash. An absolute target may
leave its path out, which is then the root. -/
def Target.ofString (s : String) : Target :=
  let shown := localPart (s.toList.takeWhile (· != '#'))
  let path := shown.takeWhile (· != '?')
  ⟨if path.isEmpty then "/" else String.ofList path,
    formPairs ((shown.dropWhile (· != '?')).drop 1)⟩

end Songbook.Web
