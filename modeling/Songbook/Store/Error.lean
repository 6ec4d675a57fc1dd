/-!
# Faults of a store

Why a store gives no documents.
-/

namespace Songbook

inductive StoreError where
  | collectionNotFound (name : String)
  | invalidQuery (reason : String)
  | storage (reason : String)
  deriving DecidableEq

def StoreError.message : StoreError → String
  | collectionNotFound name => s!"collection not found: {name}"
  | invalidQuery reason => s!"invalid query: {reason}"
  | storage reason => s!"storage error: {reason}"

end Songbook
