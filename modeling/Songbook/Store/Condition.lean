import Songbook.Request.Clause
import Songbook.Value.Order
import Songbook.Value.Path

/-!
# Conditions

What a document has to satisfy to be selected. A condition on a field that holds a list is met by
any item of the list.
-/

namespace Songbook

inductive Condition where
  | all (conditions : List Condition)
  | compare (relation : Relation) (field : String) (value : Value)
  | oneOf (field : String) (values : List Value)
  | noneOf (field : String) (values : List Value)
  /-- The text under the field begins with the given one, whatever the letter case of both. -/
  | startsWith (field start : String)

def Relation.admits : Relation → Ordering → Bool
  | eq, o => o == .eq
  | ne, o => o != .eq
  | gt, o => o == .gt
  | ge, o => o != .lt
  | lt, o => o == .lt
  | le, o => o != .gt

namespace Condition

def every : List Condition → Option Condition
  | [] => none
  | [condition] => some condition
  | conditions => some (all conditions)

def anyItem (found : Option Value) (test : Value → Bool) : Bool :=
  match found with
  | none => false
  | some (.array items) => items.any test
  | some value => test value

/-- Equality of what a field holds: the list as a whole or an item of it. A missing field equals
null. -/
def fieldEquals (collation : Collation) (doc : Document) (field : String) (value : Value) : Bool :=
  match doc.find? field with
  | none => value.isNull
  | some stored => stored.equal collation value ||
    match stored with
    | .array items => items.any (·.equal collation value)
    | _ => false

def beginsWith (start : String) : Value → Bool
  | .string s => (Text.lower start).toList.isPrefixOf (Text.lower s).toList
  | _ => false

mutual

/-- Negations also hold of documents that lack the field. -/
def holds (collation : Collation) (doc : Document) : Condition → Bool
  | all conditions => allHold collation doc conditions
  | compare .eq field value => fieldEquals collation doc field value
  | compare .ne field value => !fieldEquals collation doc field value
  | compare relation field value => anyItem (doc.find? field) fun stored =>
    (stored.compare? collation value).any relation.admits
  | oneOf field values => values.any (fieldEquals collation doc field)
  | noneOf field values => !values.any (fieldEquals collation doc field)
  | startsWith field start => anyItem (doc.find? field) (beginsWith start)

def allHold (collation : Collation) (doc : Document) : List Condition → Bool
  | [] => true
  | condition :: rest => holds collation doc condition && allHold collation doc rest

end

end Condition

end Songbook
