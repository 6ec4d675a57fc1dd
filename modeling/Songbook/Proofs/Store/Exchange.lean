import Songbook.Proofs.Store.Searches
import Songbook.Proofs.Store.Stability

/-!
# Selecting and sorting change places

Selected documents are sorted as they would be among all others. Main statement: a filter takes
documents out of a sorted answer and does not move the rest, in a search and anywhere in a pipeline.
-/

namespace Songbook

variable {collation : Collation} {keys : List SortKey} {docs : List Document}

theorem sortDocuments_filter (h : ∀ key ∈ keys, key.Orders collation docs)
    (p : Document → Bool) :
    sortDocuments collation keys (docs.filter p) = (sortDocuments collation keys docs).filter p :=
  Sorting.stableSort_filter (SortKey.preordered_compareBy fun key hkey => (h key hkey).preordered) p

namespace Stage

theorem runAll_select_sort (h : ∀ key ∈ keys, key.Orders collation docs) (condition : Condition)
    (after : List Stage) :
    runAll collation (.select condition :: .sort keys :: after) docs =
      runAll collation (.sort keys :: .select condition :: after) docs := by
  have hselect : ∀ (stages : List Stage) (docs : List Document),
      runAll collation (.select condition :: stages) docs =
        runAll collation stages (docs.filter (condition.holds collation)) := fun _ _ => rfl
  rw [hselect, runAll_sort, runAll_sort, hselect, sortDocuments_filter h]

end Stage

theorem Search.run_filter (h : ∀ key ∈ keys, key.Orders collation docs) (condition : Condition) :
    Search.run collation { filter := some condition, sort := keys } docs =
      (Search.run collation { sort := keys } docs).filter (condition.holds collation) := by
  have hall : docs.filter (fun doc => (none : Option Condition).all (·.holds collation doc)) =
      docs := List.filter_eq_self.2 fun _ _ => rfl
  simp only [run, window_none_none, hall]
  exact sortDocuments_filter h (condition.holds collation)

namespace Store

theorem aggregate_append (store : Store) (name : String) (before after : List Stage)
    (collation : Collation) :
    store.aggregate name (before ++ after) collation =
      store.aggregate name before collation >>= Stage.runAll collation after := by
  unfold aggregate
  cases store.collection name with
  | error e => rfl
  | ok docs => exact Stage.runAll_append collation before after docs

/-- Where the values under each key are ordered totally, the documents that a filtered search finds
are those that the search without the filter finds and that fulfil the condition, in one order. In
a pipeline a selection and the sort next to it change places. -/
theorem select_sort_exchange (store : Store) (name : String) (condition : Condition)
    (keys : List SortKey) (collation : Collation) :
    ((∀ docs, store.collection name = .ok docs → ∀ key ∈ keys, key.Orders collation docs) →
      store.find name { filter := some condition, sort := keys } collation =
        (store.find name { sort := keys } collation).map
          (List.filter (condition.holds collation))) ∧
      ∀ before after,
        (∀ docs, store.aggregate name before collation = .ok docs →
          ∀ key ∈ keys, key.Orders collation docs) →
        store.aggregate name (before ++ .select condition :: .sort keys :: after) collation =
          store.aggregate name (before ++ .sort keys :: .select condition :: after) collation := by
  constructor
  · intro h
    unfold find
    cases hdocs : store.collection name with
    | error e => rfl
    | ok docs => exact congrArg Except.ok (Search.run_filter (h docs hdocs) condition)
  · intro before after h
    rw [aggregate_append, aggregate_append]
    cases hdocs : store.aggregate name before collation with
    | error e => rfl
    | ok docs => exact Stage.runAll_select_sort (h docs hdocs) condition after

def redAnd1989Store : Store := ⟨[("songs", redAnd1989)]⟩

def isRed : Condition := .compare .eq "album" (.string "red")

theorem select_sort_exchange_red :
    (∀ docs, redAnd1989Store.collection "songs" = .ok docs →
      ∀ key ∈ [SortKey.desc "year"], key.Orders .caseInsensitive docs) ∧
      (∀ docs, redAnd1989Store.aggregate "songs" [.limit 3] .caseInsensitive = .ok docs →
        ∀ key ∈ [SortKey.desc "year"], key.Orders .caseInsensitive docs) ∧
      redAnd1989Store.find "songs" { filter := some isRed, sort := [.desc "year"] }
        .caseInsensitive = .ok [redAnd1989[0], redAnd1989[2]] ∧
      redAnd1989Store.aggregate "songs"
        [.limit 3, .select isRed, .sort [.desc "year"], .skip 1] .caseInsensitive =
          .ok [redAnd1989[2]] := by
  have hsettled : ∀ docs ∈ [redAnd1989, redAnd1989.take 3], ∀ key ∈ [SortKey.desc "year"],
      ∀ doc ∈ docs, ((doc.find? key.field).getD .null).Settled := by decide
  have hwhole : ∀ docs, redAnd1989Store.collection "songs" = .ok docs →
      ∀ key ∈ [SortKey.desc "year"], key.Orders .caseInsensitive docs := by
    intro docs hdocs key hkey
    obtain rfl : redAnd1989 = docs := Except.ok.inj hdocs
    exact SortKey.orders_of_settled (hsettled _ List.mem_cons_self key hkey)
  have hpart : ∀ docs, redAnd1989Store.aggregate "songs" [.limit 3] .caseInsensitive = .ok docs →
      ∀ key ∈ [SortKey.desc "year"], key.Orders .caseInsensitive docs := by
    intro docs hdocs key hkey
    obtain rfl : redAnd1989.take 3 = docs := Except.ok.inj hdocs
    exact SortKey.orders_of_settled (hsettled _ (by simp) key hkey)
  obtain ⟨hfind, haggregate⟩ :=
    select_sort_exchange redAnd1989Store "songs" isRed [.desc "year"] .caseInsensitive
  have hsorted : redAnd1989Store.find "songs" { sort := [.desc "year"] } .caseInsensitive =
      .ok [redAnd1989[3], redAnd1989[0], redAnd1989[2], redAnd1989[1]] := rfl
  refine ⟨hwhole, hpart, ?_, (haggregate [.limit 3] [.skip 1] hpart).trans rfl⟩
  rw [hfind hwhole, hsorted]
  rfl

end Store

end Songbook
