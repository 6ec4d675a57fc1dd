import Songbook.Proofs.Plan.RollUp
import Songbook.Proofs.Service.Endings

/-!
# Two answers to one request

A request selects songs. The answer for songs shows them in an order, the answer for albums sums
them up, and both then cut out the same window. Main statements: each answer as a selection that may
fail and a rest that cannot, though the sort in it may give up.
-/

namespace Songbook

namespace Plan

variable {α : Type} {outcome : Except RequestError α}

theorem liftRequest_eq_error_iff {e : QueryError} :
    liftRequest outcome = .error e ↔ ∃ fault, outcome = .error fault ∧ e = .request fault := by
  cases outcome with
  | ok a => simp [liftRequest]
  | error fault => simp [liftRequest, eq_comm]

theorem liftRequest_eq_ok_iff {a : α} : liftRequest outcome = .ok a ↔ outcome = .ok a := by
  cases outcome <;> simp [liftRequest]

end Plan

namespace Service

variable (service : Service)

def selected (descriptor : Descriptor) : Except QueryError (List Document) := do
  let stages ← Plan.songStages service.catalog descriptor
  service.answerPlan (.pipeline stages)

/-- The order of the songs in an answer; a pipeline has ordered them itself. -/
def songOrder (descriptor : Descriptor) : List SortKey :=
  match descriptor.question with
  | none => descriptor.sort.getD []
  | some question => match service.catalog.lookup question.name question.param with
    | .ok (.search _ sort) => sort
    | _ => []

section Sorts

variable {sort : Sorting.Procedure Document}

variable (sort) in
def selectedBy (descriptor : Descriptor) : Ending QueryError (List Document) := do
  let stages ← .ofExcept (Plan.songStages service.catalog descriptor)
  service.answerPlanBy sort (.pipeline stages)

theorem selectedBy_merging (descriptor : Descriptor) :
    service.selectedBy Sorting.merging descriptor = .ofExcept (service.selected descriptor) := by
  rw [selected, selectedBy, Ending.ofExcept_bind]
  simp only [answerPlanBy_merging]

theorem answerPlanBy_append (stages : List Stage) {more : List Stage}
    {f : List Document → Option (List Document)}
    (h : ∀ docs, Stage.runAllBy sort collation more docs = .ofSort (f docs)) :
    service.answerPlanBy sort (.pipeline (stages ++ more)) =
      service.answerPlanBy sort (.pipeline stages) >>= fun docs => .ofSort (f docs) := by
  have hmore : Stage.runAllBy sort collation more = fun docs => .ofSort (f docs) := funext h
  simp only [answerPlanBy, Store.aggregateBy, Stage.runAllBy_append, hmore, Ending.mapFault_bind,
    Ending.mapFault_ofSort, bind_assoc]

theorem answerPlan_append (stages : List Stage) {more : List Stage}
    {f : List Document → List Document}
    (h : ∀ docs, Stage.runAll collation more docs = .ok (f docs)) :
    service.answerPlan (.pipeline (stages ++ more)) =
      (service.answerPlan (.pipeline stages)).map f := by
  have hmore : ∀ docs, Stage.runAllBy Sorting.merging collation more docs =
      .ofSort (some (f docs)) := by
    intro docs
    rw [Stage.runAllBy_eq fun call _ => call.merges_merging collation, h]
    rfl
  apply Ending.ofExcept_injective
  rw [← answerPlanBy_merging, service.answerPlanBy_append stages hmore, answerPlanBy_merging]
  cases service.answerPlan (.pipeline stages) <;> rfl

theorem answerPlanBy_search (filter : Option Condition) (keys : List SortKey)
    (skip limit : Option UInt64) :
    service.answerPlanBy sort (.search ⟨filter, keys, skip, limit⟩) =
      service.answerPlanBy sort (.pipeline (filter.map Stage.select).toList) >>= fun docs =>
        .ofSort ((sortDocumentsBy sort collation keys docs).map (window skip limit)) := by
  unfold answerPlanBy Store.findBy Store.aggregateBy
  cases service.store.collection service.settings.collection with
  | error e => rfl
  | ok docs =>
    simp only [Ending.ofExcept, Ending.answer_bind, Stage.runAllBy_select, Ending.mapFault_ofSort]
    rfl

theorem answerBy_forSongs (hsort : sort.IsStable) (descriptor : Descriptor) :
    (.ofExcept (Plan.forSongs service.catalog descriptor) >>= service.answerPlanBy sort) =
      service.selectedBy sort descriptor >>= fun docs =>
        .ofSort ((sortDocumentsBy sort collation (service.songOrder descriptor) docs).map
          (window descriptor.skip descriptor.limit)) := by
  cases hquestion : descriptor.question with
  | none =>
    simp only [Plan.forSongs, selectedBy, Plan.songStages, songOrder, hquestion]
    cases Plan.liftRequest (Filter.condition descriptor.filter) with
    | error e => rfl
    | ok filter => exact service.answerPlanBy_search filter _ _ _
  | some question =>
    simp only [Plan.forSongs, selectedBy, Plan.songStages, songOrder, hquestion]
    cases service.catalog.lookup question.name question.param with
    | error e => rfl
    | ok recipe =>
      cases recipe with
      | search filter keys => exact service.answerPlanBy_search filter _ _ _
      | pipeline stages =>
        simp only [sortDocumentsBy_nil hsort]
        exact service.answerPlanBy_append stages
          (Stage.runAllBy_window descriptor.skip descriptor.limit)

theorem answerBy_forAlbums (hsort : sort.IsStable) {defaultField : String}
    {descriptor : Descriptor}
    (h : Plan.IsColumn (Plan.rollUpOrder defaultField descriptor.sort).1) :
    (.ofExcept (Plan.forAlbums service.catalog defaultField descriptor) >>= fun stages =>
        service.answerPlanBy sort (.pipeline stages)) =
      service.selectedBy sort descriptor >>= fun docs =>
        .ofSort ((Plan.rollUpBy sort collation defaultField descriptor.sort docs).map
          (window descriptor.skip descriptor.limit)) := by
  have hrest : ∀ docs, Stage.runAllBy sort collation
      (Plan.rollUpStages defaultField descriptor.sort ++ Plan.windowStages descriptor) docs =
        .ofSort ((Plan.rollUpBy sort collation defaultField descriptor.sort docs).map
          (window descriptor.skip descriptor.limit)) := by
    intro docs
    rw [Stage.runAllBy_append, Plan.runAllBy_rollUpStages hsort h]
    cases Plan.rollUpBy sort collation defaultField descriptor.sort docs with
    | none => rfl
    | some rows => exact Stage.runAllBy_window descriptor.skip descriptor.limit rows
  unfold Plan.forAlbums selectedBy
  cases Plan.songStages service.catalog descriptor with
  | error e => rfl
  | ok stages =>
    have hplan := service.answerPlanBy_append stages hrest
    rw [← List.append_assoc] at hplan
    exact hplan

end Sorts

section Descriptors

variable {service : Service} {params : Params} {descriptor : Descriptor}

theorem describe_eq_ok_iff : service.describe params = .ok descriptor ↔
    Descriptor.ofParams service.settings.fieldTypes params = .ok descriptor :=
  Plan.liftRequest_eq_ok_iff

section Sorts

variable {sort : Sorting.Procedure Document}

variable (sort) in
/-- A fault of the request is the answer to both. -/
theorem answersBy_of_fault {e : QueryError} (h : service.describe params = .error e) :
    service.songsBy sort params = .fault e ∧ service.albumsBy sort params = .fault e := by
  constructor
  · rw [songsBy, songPlan, h]
    rfl
  · rw [albumsBy, albumPlan, h]
    rfl

theorem songsBy_of_describe (hsort : sort.IsStable) (h : service.describe params = .ok descriptor) :
    service.songsBy sort params =
      service.selectedBy sort descriptor >>= fun docs =>
        .ofSort ((sortDocumentsBy sort collation (service.songOrder descriptor) docs).map
          (window descriptor.skip descriptor.limit)) := by
  rw [songsBy, songPlan, h]
  exact service.answerBy_forSongs hsort descriptor

theorem albumsBy_of_describe (hsort : sort.IsStable)
    (h : service.describe params = .ok descriptor)
    (hcolumn : Plan.IsColumn (Plan.rollUpOrder service.settings.albumSumField descriptor.sort).1) :
    service.albumsBy sort params =
      service.selectedBy sort descriptor >>= fun docs =>
        .ofSort ((Plan.rollUpBy sort collation service.settings.albumSumField descriptor.sort
          docs).map (window descriptor.skip descriptor.limit)) := by
  rw [albumsBy, albumPlan, h]
  simp only [Ending.ofExcept_bind, bind_assoc]
  exact service.answerBy_forAlbums hsort hcolumn

end Sorts

theorem answers_of_fault {e : QueryError} (h : service.describe params = .error e) :
    service.songs params = .error e ∧ service.albums params = .error e := by
  obtain ⟨hsongs, halbums⟩ := answersBy_of_fault Sorting.merging h
  rw [songsBy_merging] at hsongs
  rw [albumsBy_merging] at halbums
  exact ⟨Ending.ofExcept_injective hsongs, Ending.ofExcept_injective halbums⟩

theorem songs_of_describe (h : service.describe params = .ok descriptor) :
    service.songs params =
      (service.selected descriptor).map fun docs =>
        window descriptor.skip descriptor.limit
          (sortDocuments collation (service.songOrder descriptor) docs) := by
  apply Ending.ofExcept_injective
  rw [← songsBy_merging, songsBy_of_describe Sorting.isStable_merging h, selectedBy_merging]
  cases service.selected descriptor <;> rfl

theorem albums_of_describe (h : service.describe params = .ok descriptor)
    (hcolumn : Plan.IsColumn
      (Plan.rollUpOrder service.settings.albumSumField descriptor.sort).1) :
    service.albums params =
      (service.selected descriptor).map fun docs =>
        window descriptor.skip descriptor.limit
          (Plan.rollUp collation service.settings.albumSumField descriptor.sort docs) := by
  apply Ending.ofExcept_injective
  rw [← albumsBy_merging, albumsBy_of_describe Sorting.isStable_merging h hcolumn,
    selectedBy_merging]
  cases service.selected descriptor <;> rfl

theorem selected_of_stored {stored : List Document}
    (hstored : service.store.collection service.settings.collection = .ok stored) :
    service.selected descriptor =
      Plan.songStages service.catalog descriptor >>= fun stages =>
        liftStore (Stage.runAll collation stages stored) := by
  unfold selected answerPlan Store.aggregate
  simp only [hstored]
  rfl

end Descriptors

end Service

end Songbook
