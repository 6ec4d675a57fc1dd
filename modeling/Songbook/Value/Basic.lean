import Songbook.Entries
import Songbook.Number.Double

/-!
# Values

What a document holds under a key: one of many kinds of scalar, a list of values, or a document.
-/

namespace Songbook

/-- All kinds but three: regular expressions, code with a scope and pointers into databases are left
out. Bytes have no subtype. -/
inductive Value where
  | null
  | undefined
  | minKey
  | maxKey
  | bool (b : Bool)
  | int32 (n : Int32)
  | int64 (n : Int64)
  | double (d : Double)
  | decimal128 (bytes : List UInt8)
  | string (s : String)
  | symbol (s : String)
  | code (s : String)
  /-- Milliseconds since the start of 1970, in universal time. -/
  | date (millis : Int64)
  | timestamp (time increment : UInt32)
  | objectId (bytes : List UInt8)
  | binary (bytes : List UInt8)
  | array (items : List Value)
  | document (fields : List (String × Value))

abbrev Document := Entries Value

namespace Value

def kindName : Value → String
  | null => "Null"
  | undefined => "Undefined"
  | minKey => "MinKey"
  | maxKey => "MaxKey"
  | bool _ => "Boolean"
  | int32 _ => "Int32"
  | int64 _ => "Int64"
  | double _ => "Double"
  | decimal128 _ => "Decimal128"
  | string _ => "String"
  | symbol _ => "Symbol"
  | code _ => "JavaScriptCode"
  | date _ => "DateTime"
  | timestamp _ _ => "Timestamp"
  | objectId _ => "ObjectId"
  | binary _ => "Binary"
  | array _ => "Array"
  | document _ => "EmbeddedDocument"

def isNull : Value → Bool
  | null => true
  | _ => false

def integer? : Value → Option Int
  | int32 n => some n.toInt
  | int64 n => some n.toInt
  | _ => none

def number? : Value → Option Double
  | int32 n => some (Double.ofInt n.toInt)
  | int64 n => some (Double.ofInt n.toInt)
  | double d => some d
  | _ => none

mutual

/-- Sameness without any collation: kinds agree, texts agree letter by letter, equal doubles are the
same and fields may come in any order. -/
def same : Value → Value → Bool
  | null, null => true
  | undefined, undefined => true
  | minKey, minKey => true
  | maxKey, maxKey => true
  | bool a, bool b => a == b
  | int32 a, int32 b => a == b
  | int64 a, int64 b => a == b
  | double a, double b => a.compare? b == some .eq
  | decimal128 a, decimal128 b => a == b
  | string a, string b => a == b
  | symbol a, symbol b => a == b
  | code a, code b => a == b
  | date a, date b => a == b
  | timestamp s a, timestamp t b => s == t && a == b
  | objectId a, objectId b => a == b
  | binary a, binary b => a == b
  | array a, array b => sameItems a b
  | document a, document b => a.length == b.length && sameFields a b
  | _, _ => false

def sameItems : List Value → List Value → Bool
  | [], [] => true
  | a :: as, b :: bs => same a b && sameItems as bs
  | _, _ => false

def sameFields : List (String × Value) → List (String × Value) → Bool
  | [], _ => true
  | (key, a) :: rest, fields =>
    (match Entries.get? key fields with
      | some b => same a b
      | none => false) && sameFields rest fields

end

end Value

end Songbook
