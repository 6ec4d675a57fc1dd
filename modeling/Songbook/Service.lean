import Songbook.Request.Descriptor
import Songbook.Plan
import Songbook.Settings

/-!
# The query service

Answers requests for songs and for albums out of one collection of a store. Texts are compared
without regard to letter case.
-/

namespace Songbook

structure Service where
  store : Store
  catalog : Catalog := .builtin
  settings : Settings := {}

namespace Service

def collation : Collation := .caseInsensitive

def liftStore {α : Type} : Except StoreError α → Except QueryError α
  | .ok a => .ok a
  | .error e => .error (.store e)

def describe (service : Service) (params : Params) : Except QueryError Descriptor :=
  Plan.liftRequest (Descriptor.ofParams service.settings.fieldTypes params)

def answerPlan (service : Service) (plan : Plan) : Except QueryError (List Document) :=
  liftStore <| match plan with
    | .search search => service.store.find service.settings.collection search collation
    | .pipeline stages => service.store.aggregate service.settings.collection stages collation

def songs (service : Service) (params : Params) : Except QueryError (List Document) := do
  let descriptor ← service.describe params
  let plan ← Plan.forSongs service.catalog descriptor
  service.answerPlan plan

def albums (service : Service) (params : Params) : Except QueryError (List Document) := do
  let descriptor ← service.describe params
  let stages ← Plan.forAlbums service.catalog service.settings.albumSumField descriptor
  service.answerPlan (.pipeline stages)

end Service

end Songbook
