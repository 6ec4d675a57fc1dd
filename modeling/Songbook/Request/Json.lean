import Songbook.Json.Fields
import Songbook.Json.Reader
import Songbook.Request.Descriptor
import Songbook.Value.Json

/-!
# Descriptors as JSON

A descriptor written as a JSON object with all its fields, and read back from a text of that shape.
Other members are passed over, absent fields are none.
-/

namespace Songbook

namespace Relation

def name : Relation → String
  | eq => "eq"
  | ne => "ne"
  | gt => "gt"
  | ge => "gte"
  | lt => "lt"
  | le => "lte"

def ofName? : String → Option Relation
  | "eq" => some eq
  | "ne" => some ne
  | "gt" => some gt
  | "gte" => some ge
  | "lt" => some lt
  | "lte" => some le
  | _ => none

end Relation

namespace Operator

def toJson : Operator → Json
  | relation r => .string r.name
  | other token => .object [("other", .string token)]

def ofJson? : Json → Option Operator
  | .object [("other", .string token)] => some (other token)
  | json => do
    let r ← Relation.ofName? (← json.name?)
    return relation r

end Operator

namespace Direction

def name : Direction → String
  | ascending => "asc"
  | descending => "desc"

def ofName? : String → Option Direction
  | "asc" => some ascending
  | "desc" => some descending
  | _ => none

end Direction

namespace SortKey

def toJson (key : SortKey) : Json :=
  .object [("field", .string key.field), ("direction", .string key.direction.name)]

def ofJson? (json : Json) : Option SortKey := do
  match ← json.fields? ["field", "direction"] false with
  | [some field, some direction] => do
    let d ← Direction.ofName? (← direction.name?)
    return ⟨← field.string?, d⟩
  | _ => none

end SortKey

namespace Predicate

def toJson : Predicate → Json
  | compare operator value => .object [("compare",
      .object [("operator", operator.toJson), ("value", value.toJson)])]
  | oneOf values => .object [("in", .array (values.map Value.toJson))]
  | noneOf values => .object [("not_in", .array (values.map Value.toJson))]

/-- Reads a predicate. A descriptor, its filter, the predicate and what it holds are four levels. -/
def ofJson? : Json → Option Predicate
  | .object [("compare", json)] => do
    match ← json.fields? ["operator", "value"] false with
    | [some operator, some value] => do
      let op ← Operator.ofJson? operator
      return compare op (← Value.ofJson? levels value)
    | _ => none
  | .object [("in", json)] => (json.array? (Value.ofJson? levels)).map oneOf
  | .object [("not_in", json)] => (json.array? (Value.ofJson? levels)).map noneOf
  | _ => none
where
  levels : Nat := Json.levelLimit - 4

end Predicate

namespace Filter

def toJson (filter : Filter) : Json :=
  .object (filter.entries.map fun entry => (entry.1, entry.2.toJson))

/-- Reads a filter; of several predicates for a field the last one counts. -/
def ofJson? : Json → Option Filter
  | .object members => do
    let pairs ← members.mapM fun member => return (member.1, ← Predicate.ofJson? member.2)
    return ofList pairs
  | _ => none

end Filter

namespace Question

def toJson (q : Question) : Json :=
  .object [("name", .string q.name), ("param", (q.param.map Json.string).getD .null)]

def ofJson? (json : Json) : Option Question := do
  match ← json.fields? ["name", "param"] false with
  | [some name, param] => return ⟨← name.string?, ← Json.optional? Json.string? param⟩
  | _ => none

end Question

namespace Descriptor

def countToJson (n : UInt64) : Json :=
  .number (.ofInt n.toNat)

def toJson (d : Descriptor) : Json :=
  .object [("skip", (d.skip.map countToJson).getD .null),
    ("limit", (d.limit.map countToJson).getD .null),
    ("sort", (d.sort.map fun keys => .array (keys.map SortKey.toJson)).getD .null),
    ("filter", (d.filter.map Filter.toJson).getD .null),
    ("question", (d.question.map Question.toJson).getD .null)]

def ofJson? (json : Json) : Option Descriptor := do
  match ← json.fields? ["skip", "limit", "sort", "filter", "question"] false with
  | [skip, limit, sort, filter, question] => do
    let skip ← Json.optional? Json.count? skip
    let limit ← Json.optional? Json.count? limit
    let sort ← Json.optional? (Json.array? SortKey.ofJson?) sort
    let filter ← Json.optional? Filter.ofJson? filter
    let question ← Json.optional? Question.ofJson? question
    return { skip, limit, sort, filter, question }
  | _ => none

def write (d : Descriptor) : String :=
  d.toJson.write

def read? (text : String) : Option Descriptor := do
  ofJson? (← Json.read? text)

end Descriptor

end Songbook
