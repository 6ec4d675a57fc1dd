import Songbook.Calendar
import Songbook.Number.Decimal
import Songbook.Text.Blank
import Songbook.Value.Basic

/-!
# Field types

A field may be declared to hold numbers, dates or truth values; the text given for it in a request
is then read as such. Reading never fails: what is no number becomes the double that is not a
number, what is no date stays a text.
-/

namespace Songbook

inductive FieldType where
  | string
  | number
  | date
  | boolean
  deriving DecidableEq

abbrev FieldTypes := Entries FieldType

namespace FieldType

/-- An integer of 64 bits if the text is one, else the nearest double. Nothing counts as zero. -/
def readNumber (raw : String) : Value :=
  let cs := Text.trimChars raw.toList
  if cs.isEmpty then .int64 0
  else match (Number.readInt? cs).bind Number.int64? with
    | some n => .int64 n
    | none => .double ((Number.readDouble? cs).getD .nan)

/-- An instant, or a day for its first instant; letters of the text may be small. -/
def readDate (raw : String) : Value :=
  let cs := Text.trimChars raw.toList
  let capitals := cs.map Char.toUpper
  match Calendar.readInstant? capitals with
  | some millis => .date (Int64.ofInt millis)
  | none => match Calendar.readInstant? (capitals ++ "T00:00:00Z".toList) with
    | some millis => .date (Int64.ofInt millis)
    | none => .string (String.ofList cs)

def read (fieldType : Option FieldType) (raw : String) : Value :=
  match fieldType with
  | some number => readNumber raw
  | some date => readDate raw
  | some boolean => .bool (raw == "true")
  | some string | none => .string raw

end FieldType

end Songbook
