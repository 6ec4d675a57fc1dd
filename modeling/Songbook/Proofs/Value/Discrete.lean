import Songbook.Value.Order

/-!
# Equality of discrete values

Texts, integers, truth values, dates and null equal each other exactly if they are the same under
the collation, whatever the width of integers is. So equality is an equivalence on them, which it is
not on all values.
-/

namespace Songbook.Value

inductive Discrete where
  | nothing
  | text (key : String)
  | whole (n : Int)
  | truth (b : Bool)
  | moment (millis : Int)
  deriving DecidableEq

def discrete? (collation : Collation) : Value → Option Discrete
  | null => some .nothing
  | string s => some (.text (collation.key s))
  | int32 n => some (.whole n.toInt)
  | int64 n => some (.whole n.toInt)
  | bool b => some (.truth b)
  | date t => some (.moment t.toInt)
  | _ => none

def isDiscrete : Value → Bool
  | null | string _ | int32 _ | int64 _ | bool _ | date _ => true
  | _ => false

theorem equal_iff_of_isDiscrete {collation : Collation} {a b : Value} (ha : a.isDiscrete = true)
    (hb : b.isDiscrete = true) :
    a.equal collation b = true ↔ a.discrete? collation = b.discrete? collation := by
  cases a <;> cases ha <;> cases b <;> cases hb <;>
    simp [equal, discrete?, compare?, integer?, number?, Collation.compare]

end Songbook.Value
