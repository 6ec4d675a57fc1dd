import Songbook.Request.Error
import Songbook.Store.Error

/-!
# Faults of a query

A query fails through the request, through a question that nobody registered, or through the store.
-/

namespace Songbook

inductive QueryError where
  | request (error : RequestError)
  | unknownQuestion (name : String)
  | store (error : StoreError)
  deriving DecidableEq

namespace QueryError

def message : QueryError → String
  | request error => error.message
  | unknownQuestion name => s!"unknown question: {name}"
  | store error => s!"store error: {error.message}"

def isClientError : QueryError → Bool
  | request _ | unknownQuestion _ => true
  | store _ => false

end QueryError

end Songbook
