import Songbook.Service
import Songbook.Web.Form
import Songbook.Web.Response

/-!
# Routes

The paths that a service answers, to requests that only read.
-/

namespace Songbook.Web

inductive Route where
  | root
  | health
  | songs
  | albums
  deriving DecidableEq

namespace Route

def ofPath? : String → Option Route
  | "/" => some root
  | "/healthz" => some health
  | "/songs" => some songs
  | "/albums" => some albums
  | _ => none

def get (service : Service) (pairs : List (String × String)) : Route → Response
  | root => .ofJson 200 (.object [("message", .string "Hello world from SwiftCloud")])
  | health => .ofJson 200 (.object [("status", .string "ok")])
  | songs => .ofAnswer (service.songs (Params.ofPairs pairs))
  | albums => .ofAnswer (service.albums (Params.ofPairs pairs))

end Route

def respond (service : Service) (method target : String) : Response :=
  let target := Target.ofString target
  match Route.ofPath? target.path with
  | none => .notFound
  | some route =>
    if method = "GET" then route.get service target.pairs
    else if method = "HEAD" then (route.get service target.pairs).withoutBody
    else .methodNotAllowed

end Songbook.Web
