import Songbook.Request.SortKey
import Songbook.Sorting
import Songbook.Value.Order
import Songbook.Value.Path

/-!
# Ordering documents

Documents sorted by several keys, and the window of a list that a page shows.
-/

namespace Songbook

def SortKey.compare (collation : Collation) (key : SortKey) (a b : Document) : Ordering :=
  key.direction.apply (Value.sortCompareFound collation (a.find? key.field) (b.find? key.field))

def SortKey.compareBy (collation : Collation) : List SortKey → Document → Document → Ordering
  | [], _, _ => .eq
  | key :: rest, a, b => (key.compare collation a b).then (compareBy collation rest a b)

/-- Sorts by several keys; documents that no key tells apart keep their order. Where the keys do not
order the documents totally, as with what is not a number among several numbers, the order is that
of merge sort alone: another stable sort may give another, or give up. -/
def sortDocuments (collation : Collation) (keys : List SortKey) (docs : List Document) :
    List Document :=
  Sorting.stableSort (fun a b => (SortKey.compareBy collation keys a b).isLE) docs

def window {α : Type} (skip limit : Option UInt64) (items : List α) : List α :=
  let rest := items.drop (skip.getD 0).toNat
  match limit with
  | none => rest
  | some n => rest.take n.toNat

end Songbook
