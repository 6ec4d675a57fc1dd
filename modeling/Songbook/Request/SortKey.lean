import Songbook.Entries
import Songbook.Text.Blank
import Songbook.Text.Pieces

/-!
# Sort keys

A field to sort by and a direction, and their text: a field name, after a minus if it descends.
-/

namespace Songbook

inductive Direction where
  | ascending
  | descending
  deriving DecidableEq

def Direction.apply : Direction → Ordering → Ordering
  | ascending, o => o
  | descending, o => o.swap

structure SortKey where
  field : String
  direction : Direction
  deriving DecidableEq

namespace SortKey

def asc (field : String) : SortKey := ⟨field, .ascending⟩

def desc (field : String) : SortKey := ⟨field, .descending⟩

def ofToken? (token : String) : Option SortKey :=
  match Text.trimChars token.toList with
  | [] | ['-'] => none
  | '-' :: field => some (desc (String.ofList field))
  | field => some (asc (String.ofList field))

/-- Each field once: at its first place, in its last direction. -/
def combine (keys : List SortKey) : List SortKey :=
  (Entries.ofList (keys.map fun key => (key.field, key.direction))).map fun entry =>
    ⟨entry.1, entry.2⟩

def ofValues (values : List String) : List SortKey :=
  combine ((values.flatMap (Text.pieces ',')).filterMap ofToken?)

end SortKey

end Songbook
