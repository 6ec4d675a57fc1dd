import Songbook.Json.Basic
import Songbook.Number.Power

/-!
# Structures in JSON

A structure is an object with a member for each field, or an array of its fields in order; a choice
is the name of an alternative, or an object of one member with that name.
-/

namespace Songbook.Json

def levelLimit : Nat := 127

def member? (members : List (String × Json)) (key : String) : Option (Option Json) :=
  match members.filter (·.1 == key) with
  | [] => some none
  | [(_, item)] => some (some item)
  | _ => none

/-- The fields of a structure, absent ones as none. An object may have other members. An array may
end early where that is allowed. -/
def fields? (names : List String) (mayEndEarly : Bool) : Json → Option (List (Option Json))
  | object members => names.mapM (member? members)
  | array items =>
    if items.length = names.length ∨ (mayEndEarly ∧ items.length < names.length) then
      some (items.map some ++ List.replicate (names.length - items.length) none)
    else none
  | _ => none

def name? : Json → Option String
  | string s => some s
  | object [(s, null)] => some s
  | _ => none

def optional? {α : Type} (read : Json → Option α) : Option Json → Option (Option α)
  | none | some null => some none
  | some json => (read json).map some

def string? : Json → Option String
  | string s => some s
  | _ => none

def count? : Json → Option UInt64
  | number n => match n.toInt? with
    | some i =>
      if n.negative ∨ (Number.wordLimit : Int) ≤ i then none else some (UInt64.ofNat i.toNat)
    | none => none
  | _ => none

def array? {α : Type} (read : Json → Option α) : Json → Option (List α)
  | array items => items.mapM read
  | _ => none

end Songbook.Json
