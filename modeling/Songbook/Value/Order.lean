import Songbook.Collation
import Songbook.Value.Basic

/-!
# Comparing values

Values compare within a bracket: texts with texts, truth values with truth values, dates with dates,
numbers with numbers. Two integers compare exactly, other pairs of numbers as doubles. Sorting
orders the brackets themselves as well.
-/

namespace Songbook.Value

def compare? (collation : Collation) : Value → Value → Option Ordering
  | string a, string b => some (collation.compare a b)
  | bool a, bool b => some (compare a b)
  | date a, date b => some (compare a.toInt b.toInt)
  | a, b => match a.integer?, b.integer? with
    | some m, some n => some (compare m n)
    | _, _ => do
      let x ← a.number?
      let y ← b.number?
      x.compare? y

mutual

/-- Equality as queries see it: lists item by item, documents exactly, all else by comparison. -/
def equal (collation : Collation) : Value → Value → Bool
  | null, null => true
  | array a, array b => equalItems collation a b
  | document a, document b => same (document a) (document b)
  | a, b => a.compare? collation b == some .eq

def equalItems (collation : Collation) : List Value → List Value → Bool
  | [], [] => true
  | a :: as, b :: bs => equal collation a b && equalItems collation as bs
  | _, _ => false

end

def bracket : Value → Nat
  | null | undefined => 0
  | int32 _ | int64 _ | double _ | decimal128 _ => 1
  | string _ | symbol _ => 2
  | document _ => 3
  | array _ => 4
  | bool _ => 5
  | date _ | timestamp _ _ => 6
  | _ => 7

/-- The order of sorting: brackets first, then values, those that do not compare being level. -/
def sortCompare (collation : Collation) (a b : Value) : Ordering :=
  if a.bracket = b.bracket then (a.compare? collation b).getD .eq
  else compare a.bracket b.bracket

def sortCompareFound (collation : Collation) (a b : Option Value) : Ordering :=
  sortCompare collation (a.getD null) (b.getD null)

end Songbook.Value
