import Songbook.Calendar
import Songbook.Json.Basic
import Songbook.Number.Decimal128
import Songbook.Number.Power
import Songbook.Value.Basic

/-!
# Values as JSON

Values that JSON has no form for are written as objects of one marked member, `$date` for instance.
Reading knows the seven marks of `Value.marks` and no others: `$numberDecimal`, `$code`,
`$timestamp`, `$minKey`, `$maxKey` and all the rest are keys of plain documents to it. It does not
look at the kind that a value had before it was written, so that small integers come back in 32
bits.
-/

namespace Songbook

namespace Value

def marked (mark : String) (json : Json) : Json :=
  .object [(mark, json)]

def hexString (bytes : List UInt8) : Json :=
  .string (String.ofList (bytes.flatMap Number.hexOfByte))

def byteArray (bytes : List UInt8) : Json :=
  .array (bytes.map fun b => .number (.ofInt b.toNat))

mutual

def toJson : Value → Json
  | null => .null
  | bool b => .bool b
  | int32 n => .number (.ofInt n.toInt)
  | int64 n => .number (.ofInt n.toInt)
  | double d => match Numeral.ofDouble? d with
    | some n => .number n
    | none => .null
  | string s => .string s
  | date millis =>
    marked "$date" (marked "$numberLong" (.string (String.ofList (Number.writeInt millis.toInt))))
  | timestamp time increment => marked "$timestamp" (.object
    [("t", .number (.ofInt time.toNat)), ("i", .number (.ofInt increment.toNat))])
  | symbol s => marked "$symbol" (.string s)
  | code s => marked "$code" (.string s)
  | objectId bytes => marked "$oid" (hexString bytes)
  | decimal128 bytes =>
    marked "$numberDecimal" (.string (String.ofList (Number.Decimal128.ofBytes bytes).write))
  | binary bytes => byteArray bytes
  | undefined => marked "$undefined" (.bool true)
  | minKey => marked "$minKey" (.number (.ofInt 1))
  | maxKey => marked "$maxKey" (.number (.ofInt 1))
  | array items => .array (itemsToJson items)
  | document fields => .object (fieldsToJson fields)

def itemsToJson : List Value → List Json
  | [] => []
  | item :: rest => toJson item :: itemsToJson rest

def fieldsToJson : List (String × Value) → List (String × Json)
  | [] => []
  | (key, item) :: rest => (key, toJson item) :: fieldsToJson rest

end

/-- An integer without a sign takes 32 bits if they hold it, one with a sign takes 64. Beyond that
numbers are doubles, but for those that only an unsigned integer of 64 bits would hold. -/
def ofNumeral? (n : Numeral) : Option Value :=
  match n.toInt? with
  | none => n.toDouble?.map double
  | some i =>
    if n.negative then
      match Number.int64? i with
      | some small => if i = 0 then n.toDouble?.map double else some (int64 small)
      | none => n.toDouble?.map double
    else match Number.int32? i, Number.int64? i with
      | some small, _ => some (int32 small)
      | none, some large => some (int64 large)
      | none, none => if i < Number.wordLimit then none else n.toDouble?.map double

def marks : List String :=
  ["$numberInt", "$numberLong", "$numberDouble", "$date", "$oid", "$symbol", "$undefined"]

def ofMark? (levels : Nat) : String → Json → Option Value
  | "$numberInt", .string s => ((Number.readInt? s.toList).bind Number.int32?).map int32
  | "$numberLong", .string s => ((Number.readInt? s.toList).bind Number.int64?).map int64
  | "$numberDouble", .string s => (Number.readDouble? s.toList).map double
  | "$date", .object [("$numberLong", .string s)] =>
    if levels = 0 then none else ((Number.readInt? s.toList).bind Number.int64?).map date
  | "$date", .string s => (Calendar.readInstant? s.toList).map fun ms => date (Int64.ofInt ms)
  | "$oid", .string s => match Number.bytesOfHex? s.toList with
    | some bytes => if bytes.length = 12 then some (objectId bytes) else none
    | none => none
  | "$symbol", .string s => some (symbol s)
  | "$undefined", .bool true => some undefined
  | _, _ => none

mutual

def ofJson? (levels : Nat) : Json → Option Value
  | .null => some null
  | .bool b => some (bool b)
  | .number n => ofNumeral? n
  | .string s => some (string s)
  | .array items => match levels with
    | 0 => none
    | levels + 1 => (ofItems? levels items).map array
  | .object members => match levels with
    | 0 => none
    | levels + 1 => ofMembers? levels [] members
  | .garbled => none

def ofItems? (levels : Nat) : List Json → Option (List Value)
  | [] => some []
  | item :: rest => do
    let value ← ofJson? levels item
    let values ← ofItems? levels rest
    return value :: values

/-- Reads the members that follow the fields of a document. A mark makes a value of its own, and
nothing may follow it. -/
def ofMembers? (levels : Nat) (fields : Entries Value) : List (String × Json) → Option Value
  | [] => some (document fields)
  | (key, item) :: rest =>
    if marks.contains key then if rest.isEmpty then ofMark? levels key item else none
    else match ofJson? levels item with
      | some value => ofMembers? levels (fields.insert key value) rest
      | none => none

end

end Value

namespace Document

def toJson (doc : Document) : Json :=
  (Value.document doc).toJson

def ofJson? (levels : Nat) (json : Json) : Option Document :=
  match Value.ofJson? levels json with
  | some (.document doc) => some doc
  | _ => none

end Document

end Songbook
