import Songbook.QueryError
import Songbook.Value.Json

/-!
# Responses

What a request gets back. Faults of the client are told, faults of the store are not.
-/

namespace Songbook.Web

structure Response where
  status : Nat
  contentType : Option String := none
  body : String := ""
  deriving DecidableEq

/-- Why a request got no documents: the query failed, or nobody finished it. -/
inductive Failure where
  | query (error : QueryError)
  | unfinished
  deriving DecidableEq

namespace Response

def ofJson (status : Nat) (json : Json) : Response :=
  ⟨status, some "application/json", json.write⟩

def documents (docs : List Document) : Response :=
  ofJson 200 (.array (docs.map Document.toJson))

def fault (status : Nat) (message : String) : Response :=
  ofJson status (.object [("error", .string message)])

def internal : Response :=
  fault 500 "internal server error"

def ofFailure : Failure → Response
  | .query error => if error.isClientError then fault 400 error.message else internal
  | .unfinished => internal

def ofAnswer : Except QueryError (List Document) → Response
  | .ok docs => documents docs
  | .error error => ofFailure (.query error)

def notFound : Response := { status := 404 }

def methodNotAllowed : Response := { status := 405 }

def withoutBody (response : Response) : Response :=
  { response with body := "" }

end Response

end Songbook.Web
