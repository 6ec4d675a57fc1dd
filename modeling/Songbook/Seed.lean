import Songbook.Json.Fields
import Songbook.Json.Reader
import Songbook.Value.Json

/-!
# Seeds

The documents that a store starts with: a JSON array of objects, in a file of UTF-8 text.
-/

namespace Songbook

inductive SeedError where
  | unreadable
  | malformed
  deriving DecidableEq

def SeedError.message : SeedError → String
  | unreadable => "cannot read seed file"
  | malformed => "seed file is not a JSON array of objects"

namespace Seed

/-- Reads documents; the array and each object in it are two levels, of which the array is the
outermost. -/
def read (text : String) : Except SeedError (List Document) :=
  match (Json.read? text).bind (Json.array? (Document.ofJson? (Json.levelLimit - 1))) with
  | some docs => .ok docs
  | none => .error .malformed

def load (file : Option ByteArray) : Except SeedError (List Document) :=
  match file.bind String.fromUTF8? with
  | some text => read text
  | none => .error .unreadable

end Seed

end Songbook
