import Songbook.Json.Fields
import Songbook.Json.Reader
import Songbook.Request.FieldType

/-!
# Settings

What a service has to know of its songs, and the JSON text of it. Whatever the text leaves out has a
default.
-/

namespace Songbook

structure Settings where
  collection : String := "taylorsongs"
  fieldTypes : FieldTypes :=
    ["year", "plays", "plays-june", "plays-july", "plays-august"].map (·, .number)
  /-- The field that a roll-up sums if the request has no order. -/
  albumSumField : String := "plays"

namespace FieldType

def ofName? : String → Option FieldType
  | "string" => some string
  | "number" => some number
  | "date" => some date
  | "boolean" => some boolean
  | _ => none

def typesOfJson? : Json → Option FieldTypes
  | .object members => do
    let pairs ← members.mapM fun member =>
      return (member.1, ← ofName? (← member.2.name?))
    return Entries.ofList pairs
  | _ => none

end FieldType

namespace Settings

def default : Settings := {}

def part {α : Type} (read : Json → Option α) (given : α) : Option Json → Option α
  | none => some given
  | some json => read json

def ofJson? (json : Json) : Option Settings := do
  match ← json.fields? ["collection", "field_types", "album_sum_field"] true with
  | [collection, types, sum] => do
    let collection ← part Json.string? default.collection collection
    let fieldTypes ← part FieldType.typesOfJson? default.fieldTypes types
    let albumSumField ← part Json.string? default.albumSumField sum
    return { collection, fieldTypes, albumSumField }
  | _ => none

def read? (text : String) : Option Settings := do
  ofJson? (← Json.read? text)

end Settings

end Songbook
