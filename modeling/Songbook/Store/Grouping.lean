import Songbook.Number.Digits
import Songbook.Value.Order
import Songbook.Value.Path

/-!
# Grouping

Documents put together by the value of a field, one row for each group. Groups come in the order of
their first documents, and the first document names the key.
-/

namespace Songbook

inductive Tally where
  | count
  | sum (field : String)
  deriving DecidableEq

structure Grouping where
  key : String
  tallies : List (String × Tally)
  deriving DecidableEq

/-- A running total: exact as long as it is an integer of 64 bits, a double from then on. -/
inductive Total where
  | exact (n : Int64)
  | rounded (d : Double)
  deriving DecidableEq

namespace Total

def add (total : Total) (value : Value) : Total :=
  match total, value.integer?, value.number? with
  | exact n, some m, _ => match Number.int64? (n.toInt + m) with
    | some sum => exact sum
    | none => rounded ((Double.ofInt n.toInt).add (Double.ofInt m))
  | exact n, none, some d => rounded ((Double.ofInt n.toInt).add d)
  | rounded c, _, some d => rounded (c.add d)
  | total, _, none => total

def of (values : List Value) : Total :=
  values.foldl add (exact 0)

def toValue : Total → Value
  | exact n => .int64 n
  | rounded d => .double d

end Total

def Tally.of (docs : List Document) : Tally → Value
  | count => .int64 (Int64.ofNat docs.length)
  | sum field => (Total.of (docs.filterMap (·.find? field))).toValue

structure DocumentGroup where
  key : Value
  docs : List Document

namespace Grouping

def assign (collation : Collation) (key : Value) (doc : Document) :
    List DocumentGroup → List DocumentGroup
  | [] => [⟨key, [doc]⟩]
  | group :: rest =>
    if group.key.equal collation key then { group with docs := group.docs ++ [doc] } :: rest
    else group :: assign collation key doc rest

def keyOf (field : String) (doc : Document) : Value :=
  (doc.find? field).getD .null

def groups (collation : Collation) (field : String) (docs : List Document) : List DocumentGroup :=
  docs.foldl (fun groups doc => assign collation (keyOf field doc) doc groups) []

def row (grouping : Grouping) (group : DocumentGroup) : Document :=
  grouping.tallies.foldl (fun row tally => row.insert tally.1 (tally.2.of group.docs))
    [(grouping.key, group.key)]

def run (collation : Collation) (grouping : Grouping) (docs : List Document) : List Document :=
  (groups collation grouping.key docs).map grouping.row

end Grouping

end Songbook
