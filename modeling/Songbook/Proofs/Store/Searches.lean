import Songbook.Proofs.Store.Pipelines

/-!
# Searches as pipelines

A search does in one step what a pipeline does in up to four: select, sort, and cut both ends of the
answer off. Main statement: on every store the two give the same answer, documents or fault.
-/

namespace Songbook

/-- The pipeline of a search; what the search does not ask for has no stage. -/
def Search.stages (search : Search) : List Stage :=
  (search.filter.map Stage.select).toList ++ .sort search.sort ::
    ((search.skip.map Stage.skip).toList ++ (search.limit.map Stage.limit).toList)

theorem Stage.runAll_sort (collation : Collation) (keys : List SortKey) (stages : List Stage)
    (docs : List Document) :
    runAll collation (.sort keys :: stages) docs =
      runAll collation stages (sortDocuments collation keys docs) := rfl

/-- The pipeline of a search leaves what the search finds, and no stage of it fails. -/
theorem Search.runAll_stages (collation : Collation) (search : Search) (docs : List Document) :
    Stage.runAll collation search.stages docs = .ok (search.run collation docs) := by
  let selected := docs.filter fun doc => search.filter.all (·.holds collation doc)
  have hselect : Stage.runAll collation (search.filter.map Stage.select).toList docs =
      .ok selected := Stage.runAll_select collation search.filter docs
  rw [stages, Stage.runAll_append, hselect]
  change Stage.runAll collation (.sort search.sort :: _) selected = _
  rw [Stage.runAll_sort, Stage.runAll_window]
  rfl

namespace Store

variable (store : Store) (name : String)

theorem collection_eq_error_iff {e : StoreError} : store.collection name = .error e ↔
    store.collections.get? name = none ∧ e = .collectionNotFound name := by
  unfold collection
  cases store.collections.get? name with
  | none => simp [eq_comm]
  | some docs => simp

/-- A search and its pipeline find the same documents in the same order. Both fail exactly where the
collection is missing, and then with that fault. -/
theorem find_eq_aggregate (search : Search) (collation : Collation) :
    store.find name search collation = store.aggregate name search.stages collation ∧
      ∀ e, store.find name search collation = .error e ↔
        store.collections.get? name = none ∧ e = .collectionNotFound name := by
  have hfind : store.find name search collation =
      (store.collection name).map (search.run collation) := rfl
  constructor
  · have hrun : Stage.runAll collation search.stages = fun docs => .ok (search.run collation docs) :=
      funext (search.runAll_stages collation)
    rw [hfind, aggregate, hrun]
    cases store.collection name <;> rfl
  · intro e
    rw [← collection_eq_error_iff, hfind]
    cases store.collection name with
    | error fault => rfl
    | ok docs =>
      constructor
      · intro h
        cases h
      · intro h
        cases h

end Store

end Songbook
