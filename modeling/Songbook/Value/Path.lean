import Songbook.Text.Pieces
import Songbook.Value.Basic

/-!
# Paths

A path is a text of keys with a point between each two; it leads from a document through embedded
documents to a value. A key that itself holds a point is out of its reach.
-/

namespace Songbook.Document

/-- Follows keys one by one; all but the last must lead to embedded documents. -/
def follow? : List String → Document → Option Value
  | [], _ => none
  | [key], doc => doc.get? key
  | key :: next :: rest, doc => match doc.get? key with
    | some (.document inner) => follow? (next :: rest) inner
    | _ => none

def find? (path : String) (doc : Document) : Option Value :=
  doc.follow? (Text.pieces '.' path)

end Songbook.Document
