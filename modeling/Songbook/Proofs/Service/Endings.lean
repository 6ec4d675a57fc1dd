import Songbook.Proofs.Store.Endings
import Songbook.Service

/-!
# Answers that may not come

The answers of a service by any procedure that sorts. By merge sort they are the answers of the
service, and by any stable sort they are so too if the keys of the sorts order what they sort.
-/

namespace Songbook

variable {sort : Sorting.Procedure Document} {docs : List Document}

def Plan.sorts (collation : Collation) (docs : List Document) : Plan → List SortCall
  | search asked => asked.sorts collation docs
  | pipeline stages => Stage.allSorts collation stages docs

namespace Service

def songPlan (service : Service) (params : Params) : Except QueryError Plan := do
  let descriptor ← service.describe params
  Plan.forSongs service.catalog descriptor

def albumPlan (service : Service) (params : Params) : Except QueryError Plan := do
  let descriptor ← service.describe params
  let stages ← Plan.forAlbums service.catalog service.settings.albumSumField descriptor
  return .pipeline stages

section Runs

variable (sort : Sorting.Procedure Document)

def answerPlanBy (service : Service) (plan : Plan) : Ending QueryError (List Document) :=
  Ending.mapFault QueryError.store <| match plan with
    | .search asked => service.store.findBy sort collation service.settings.collection asked
    | .pipeline stages =>
      service.store.aggregateBy sort collation service.settings.collection stages

/-- The answer for songs, if it comes, where all sorts are made by the given procedure. -/
def songsBy (service : Service) (params : Params) : Ending QueryError (List Document) := do
  let plan ← .ofExcept (service.songPlan params)
  service.answerPlanBy sort plan

def albumsBy (service : Service) (params : Params) : Ending QueryError (List Document) := do
  let plan ← .ofExcept (service.albumPlan params)
  service.answerPlanBy sort plan

end Runs

/-- The sorts that a plan makes; without a plan or its collection there are none. -/
def sortsOf (service : Service) (plan : Except QueryError Plan) : List SortCall :=
  match plan, service.store.collection service.settings.collection with
  | .ok plan, .ok docs => plan.sorts collation docs
  | _, _ => []

def songSorts (service : Service) (params : Params) : List SortCall :=
  service.sortsOf (service.songPlan params)

def albumSorts (service : Service) (params : Params) : List SortCall :=
  service.sortsOf (service.albumPlan params)

variable {service : Service} {params : Params} {plan : Plan}

theorem songs_eq (service : Service) (params : Params) :
    service.songs params = service.songPlan params >>= service.answerPlan := by
  simp only [songs, songPlan, bind_assoc]

theorem albums_eq (service : Service) (params : Params) :
    service.albums params = service.albumPlan params >>= service.answerPlan := by
  simp only [albums, albumPlan, bind_assoc, pure_bind]

theorem sortsOf_of_stored (h : service.store.collection service.settings.collection = .ok docs) :
    service.sortsOf (.ok plan) = plan.sorts collation docs := by
  simp only [sortsOf, h]

theorem answerPlanBy_eq (h : ∀ call ∈ service.sortsOf (.ok plan), call.Merges sort collation) :
    service.answerPlanBy sort plan = .ofExcept (service.answerPlan plan) := by
  have hstored : ∀ docs, service.store.collection service.settings.collection = .ok docs →
      ∀ call ∈ plan.sorts collation docs, call.Merges sort collation := by
    intro docs hdocs
    rw [← sortsOf_of_stored hdocs]
    exact h
  have hlift : ∀ outcome : Except StoreError (List Document),
      (Ending.ofExcept outcome).mapFault QueryError.store = .ofExcept (liftStore outcome) := by
    intro outcome
    cases outcome <;> rfl
  unfold answerPlanBy answerPlan
  cases plan with
  | search asked =>
    simp only [Store.findBy_eq hstored]
    exact hlift _
  | pipeline stages =>
    simp only [Store.aggregateBy_eq hstored]
    exact hlift _

theorem answerBy_eq {plan : Except QueryError Plan}
    (h : ∀ call ∈ service.sortsOf plan, call.Merges sort collation) :
    (.ofExcept plan >>= service.answerPlanBy sort) =
      Ending.ofExcept (plan >>= service.answerPlan) := by
  cases plan with
  | error e => rfl
  | ok plan => exact answerPlanBy_eq h

theorem songsBy_eq (h : ∀ call ∈ service.songSorts params, call.Merges sort collation) :
    service.songsBy sort params = .ofExcept (service.songs params) := by
  rw [songs_eq]
  exact answerBy_eq h

theorem albumsBy_eq (h : ∀ call ∈ service.albumSorts params, call.Merges sort collation) :
    service.albumsBy sort params = .ofExcept (service.albums params) := by
  rw [albums_eq]
  exact answerBy_eq h

theorem answerPlanBy_merging (service : Service) (plan : Plan) :
    service.answerPlanBy Sorting.merging plan = .ofExcept (service.answerPlan plan) :=
  answerPlanBy_eq fun call _ => call.merges_merging collation

theorem songsBy_merging (service : Service) (params : Params) :
    service.songsBy Sorting.merging params = .ofExcept (service.songs params) :=
  songsBy_eq fun call _ => call.merges_merging collation

theorem albumsBy_merging (service : Service) (params : Params) :
    service.albumsBy Sorting.merging params = .ofExcept (service.albums params) :=
  albumsBy_eq fun call _ => call.merges_merging collation

end Service

end Songbook
