import Songbook.Number.Digits
import Songbook.Store.Error
import Songbook.Value.Path

/-!
# Formulas

Values computed from a document.
-/

namespace Songbook

inductive Formula where
  | field (path : String)
  | literal (value : Value)
  | minus (a b : Formula)

namespace Value

/-- A difference. Null on either side gives null; integers give an integer if 64 bits hold it, and
numbers a double otherwise. -/
def minus (a b : Value) : Except StoreError Value :=
  if a.isNull || b.isNull then .ok null
  else match integerDifference? a b with
    | some n => .ok (int64 n)
    | none => match a.number?, b.number? with
      | some x, some y => .ok (double (x.sub y))
      | _, _ => .error (.invalidQuery s!"cannot subtract {b.kindName} from {a.kindName}")
where
  integerDifference? (a b : Value) : Option Int64 := do
    Number.int64? ((← a.integer?) - (← b.integer?))

end Value

/-- A field that is missing counts as null. -/
def Formula.eval (doc : Document) : Formula → Except StoreError Value
  | field path => .ok ((doc.find? path).getD .null)
  | literal value => .ok value
  | minus a b => do
    let x ← a.eval doc
    let y ← b.eval doc
    x.minus y

end Songbook
