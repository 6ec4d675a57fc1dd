import Songbook.Entries
import Songbook.Text.Blank
import Songbook.Text.Lower

/-!
# Parameters

The parameters of one request, blind to letter case: keys are trimmed and lower-cased, values are
lower-cased, and values of one key are kept together in the order in which they came.
-/

namespace Songbook

structure Params where
  entries : Entries (List String) := []

namespace Params

def foldKey (key : String) : String :=
  Text.lower (Text.trim key)

def insert (key value : String) (params : Params) : Params :=
  ⟨params.entries.alter (foldKey key) fun values => values.getD [] ++ [Text.lower value]⟩

def ofPairs (pairs : List (String × String)) : Params :=
  pairs.foldl (fun params pair => params.insert pair.1 pair.2) {}

def get? (key : String) (params : Params) : Option (List String) :=
  params.entries.get? key

def size (params : Params) : Nat :=
  params.entries.length

def isEmpty (params : Params) : Bool :=
  params.entries.isEmpty

end Params

end Songbook
