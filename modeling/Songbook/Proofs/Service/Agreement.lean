import Songbook.Proofs.Service.Answers
import Songbook.Proofs.Store.Totals
import Songbook.Proofs.Value.Paths

/-!
# Songs and albums agree

The answers for songs and for albums fail together and count the same songs. A sort that gives up is
no fault of a request: it may happen to one of the two answers alone.
-/

namespace Songbook

namespace Plan

/-- The counts of the rows, each as the number of songs of one group. -/
theorem rollUpBy_counts {sort : Sorting.Procedure Document} (hsort : sort.IsStable)
    {defaultField : String} {keys : Option (List SortKey)} {docs rows : List Document}
    (h : rollUpBy sort collation defaultField keys docs = some rows) :
    ∃ counts : List Nat,
      rows.map (·.get? songCount) = counts.map (fun n => some (.int64 (Int64.ofNat n))) ∧
      counts.sum = docs.length := by
  obtain ⟨groups, hgroups, hrows⟩ := exists_groups_of_rollUpBy hsort h
  refine ⟨groups.map (·.docs.length), ?_, ?_⟩
  · rw [hrows, List.map_map, List.map_map]
    have hcount : album ≠ songCount := by decide
    apply List.map_congr_left
    intro group _
    simp [albumRow, Entries.get?, hcount, Tally.of]
  · have hperm := (hgroups.flatMap_right DocumentGroup.docs).trans
      (Grouping.groups_docs_perm collation album docs)
    rw [← hperm.length_eq, List.length_flatMap]

/-- A column of counts that 64 bits hold adds up to the sum of the numbers it was made from. -/
theorem sum_counts {rows : List Document} {counts : List Nat}
    (hrows : rows.map (·.get? songCount) = counts.map fun n => some (.int64 (Int64.ofNat n)))
    (hfits : counts.sum ≤ Int64.maxValue.toInt.toNat) :
    (rows.map (·.amount songCount)).sum = (counts.sum : Int) := by
  induction rows generalizing counts with
  | nil =>
    have hnil : counts = [] := List.map_eq_nil_iff.1 hrows.symm
    rw [hnil]
    rfl
  | cons row rows ih =>
    cases counts with
    | nil => cases hrows
    | cons n counts =>
      rw [List.map_cons, List.map_cons, List.cons.injEq] at hrows
      rw [List.sum_cons] at hfits
      have hamount := Document.amount_of_count (by decide) hrows.1 (by omega)
      have hrest := ih hrows.2 (by omega)
      rw [List.map_cons, List.sum_cons, List.sum_cons, hamount, hrest]
      omega

end Plan

namespace Service

/-- Two endings of one request that tell the same: one has a fault where the other has it, and
without a window the counts of the rows add up to the number of the records. -/
structure Agree (service : Service) (params : Params)
    (songs albums : Ending QueryError (List Document)) : Prop where
  faults : ∀ e, songs = .fault e ↔ albums = .fault e
  counts : ∀ descriptor records rows, service.describe params = .ok descriptor →
    descriptor.skip = none → descriptor.limit = none →
    songs = .answer records → albums = .answer rows →
      (∃ counts : List Nat,
        rows.map (·.get? Plan.songCount) = counts.map (fun n => some (.int64 (Int64.ofNat n))) ∧
        counts.sum = records.length) ∧
      ((records.length : Int) ≤ Int64.maxValue.toInt →
        (rows.map (·.amount Plan.songCount)).sum = (records.length : Int))

variable {service : Service} {params : Params} {descriptor : Descriptor}
  {sort : Sorting.Procedure Document}

theorem songsBy_fault_iff (hsort : sort.IsStable)
    (hcolumn : Plan.IsColumn service.settings.albumSumField) (e : QueryError) :
    service.songsBy sort params = .fault e ↔ service.albumsBy sort params = .fault e := by
  cases hdescribe : service.describe params with
  | error fault =>
    obtain ⟨hsongs, halbums⟩ := answersBy_of_fault sort hdescribe
    rw [hsongs, halbums]
  | ok descriptor =>
    have horder := Plan.rollUpOrder_isColumn hcolumn descriptor.sort
    rw [songsBy_of_describe hsort hdescribe, albumsBy_of_describe hsort hdescribe horder,
      Ending.bind_ofSort_eq_fault_iff, Ending.bind_ofSort_eq_fault_iff]

/-- What both answers are made of if there is no window. -/
theorem selectedBy_of_answers (hsort : sort.IsStable) {records rows : List Document}
    (hcolumn : Plan.IsColumn (Plan.rollUpOrder service.settings.albumSumField descriptor.sort).1)
    (hdescribe : service.describe params = .ok descriptor)
    (hskip : descriptor.skip = none) (hlimit : descriptor.limit = none)
    (hsongs : service.songsBy sort params = .answer records)
    (halbums : service.albumsBy sort params = .answer rows) :
    ∃ docs, records.Perm docs ∧
      Plan.rollUpBy sort collation service.settings.albumSumField descriptor.sort docs =
        some rows := by
  have hwindow : ∀ sorted : Option (List Document), sorted.map (window none none) = sorted := by
    intro sorted
    cases sorted <;> simp [window_none_none]
  rw [songsBy_of_describe hsort hdescribe, hskip, hlimit, Ending.bind_eq_answer_iff] at hsongs
  rw [albumsBy_of_describe hsort hdescribe hcolumn, hskip, hlimit, Ending.bind_eq_answer_iff]
    at halbums
  obtain ⟨docs, hselected, hsongs⟩ := hsongs
  obtain ⟨docs', hselected', halbums⟩ := halbums
  obtain rfl : docs = docs' := Ending.answer.inj (hselected.symm.trans hselected')
  rw [hwindow, Ending.ofSort_eq_answer_iff] at hsongs halbums
  exact ⟨docs, sortDocumentsBy_perm hsort hsongs, halbums⟩

theorem agree_by (hsort : sort.IsStable) (params : Params)
    (hcolumn : Plan.IsColumn service.settings.albumSumField) :
    service.Agree params (service.songsBy sort params) (service.albumsBy sort params) where
  faults := songsBy_fault_iff hsort hcolumn
  counts := by
    intro descriptor records rows hdescribe hskip hlimit hsongs halbums
    have horder := Plan.rollUpOrder_isColumn hcolumn descriptor.sort
    obtain ⟨docs, hrecords, hrows⟩ :=
      selectedBy_of_answers hsort horder hdescribe hskip hlimit hsongs halbums
    obtain ⟨counts, hcounts, hsum⟩ := Plan.rollUpBy_counts hsort hrows
    rw [hrecords.length_eq]
    refine ⟨⟨counts, hcounts, hsum⟩, ?_⟩
    intro hfits
    rw [Plan.sum_counts hcounts (by omega), hsum]

/-- The two answers of a service agree, and so do those by any stable sort. Such a sort may give up
in one of them and leave it out. Where the keys of all its sorts order what they sort, it does not,
and the answer is that of the service. -/
theorem songs_albums_agree (service : Service) (params : Params)
    (hcolumn : Plan.IsColumn service.settings.albumSumField) :
    service.Agree params (.ofExcept (service.songs params)) (.ofExcept (service.albums params)) ∧
      ∀ sort : Sorting.Procedure Document, sort.IsStable →
        service.Agree params (service.songsBy sort params) (service.albumsBy sort params) ∧
        ((∀ call ∈ service.songSorts params, call.IsOrdered collation) →
          service.songsBy sort params = .ofExcept (service.songs params)) ∧
        ((∀ call ∈ service.albumSorts params, call.IsOrdered collation) →
          service.albumsBy sort params = .ofExcept (service.albums params)) := by
  constructor
  · rw [← songsBy_merging, ← albumsBy_merging]
    exact agree_by Sorting.isStable_merging params hcolumn
  · intro sort hsort
    refine ⟨agree_by hsort params hcolumn, ?_, ?_⟩
    · intro hordered
      exact songsBy_eq fun call hcall => (hordered call hcall).merges hsort
    · intro hordered
      exact albumsBy_eq fun call hcall => (hordered call hcall).merges hsort

/-- Three songs of two albums, one of which is spelled in two ways. -/
def redAndFearless : Service where
  store := ⟨[("taylorsongs", [
    [("song", .string "Red"), ("album", .string "Red"), ("plays", .int32 5)],
    [("song", .string "Fearless"), ("album", .string "Fearless"), ("plays", .int64 7)],
    [("song", .string "22"), ("album", .string "RED")]])]⟩

theorem songs_albums_agree_red :
    Plan.IsColumn redAndFearless.settings.albumSumField ∧
      Sorting.Procedure.IsStable (Sorting.cautious (α := Document)) ∧
      redAndFearless.describe (Params.ofPairs [("sort", "song-count")]) =
        .ok { sort := some [.asc "song-count"] } ∧
      (∀ call ∈ redAndFearless.songSorts (Params.ofPairs [("sort", "song-count")]),
        call.IsOrdered collation) ∧
      (∀ call ∈ redAndFearless.albumSorts (Params.ofPairs [("sort", "song-count")]),
        call.IsOrdered collation) ∧
      ∃ records rows,
        redAndFearless.songsBy Sorting.cautious (Params.ofPairs [("sort", "song-count")]) =
          .answer records ∧
        redAndFearless.albumsBy Sorting.cautious (Params.ofPairs [("sort", "song-count")]) =
          .answer rows ∧
        records.length = 3 ∧ (rows.map (·.amount Plan.songCount)).sum = 3 := by
  have hcolumn : Plan.IsColumn redAndFearless.settings.albumSumField := by decide
  have hdescribe : redAndFearless.describe (Params.ofPairs [("sort", "song-count")]) =
      .ok { sort := some [.asc "song-count"] } := rfl
  have hsongs : ∀ call ∈ redAndFearless.songSorts (Params.ofPairs [("sort", "song-count")]),
      call.IsOrdered collation := by decide
  have halbums : ∀ call ∈ redAndFearless.albumSorts (Params.ofPairs [("sort", "song-count")]),
      call.IsOrdered collation := by decide
  let records : List Document := [
    [("song", .string "Red"), ("album", .string "Red"), ("plays", .int32 5)],
    [("song", .string "Fearless"), ("album", .string "Fearless"), ("plays", .int64 7)],
    [("song", .string "22"), ("album", .string "RED")]]
  let rows : List Document := [
    [("album", .string "Fearless"), ("song-count", .int64 1), ("plays", .int64 7)],
    [("album", .string "Red"), ("song-count", .int64 2), ("plays", .int64 5)]]
  obtain ⟨-, hstable⟩ := songs_albums_agree redAndFearless
    (Params.ofPairs [("sort", "song-count")]) hcolumn
  obtain ⟨hagree, hsongsBy, halbumsBy⟩ := hstable Sorting.cautious Sorting.isStable_cautious
  have hrecords : redAndFearless.songsBy Sorting.cautious
      (Params.ofPairs [("sort", "song-count")]) = .answer records := (hsongsBy hsongs).trans rfl
  have hrows : redAndFearless.albumsBy Sorting.cautious
      (Params.ofPairs [("sort", "song-count")]) = .answer rows := (halbumsBy halbums).trans rfl
  obtain ⟨-, hsum⟩ := hagree.counts _ records rows hdescribe rfl rfl hrecords hrows
  exact ⟨hcolumn, Sorting.isStable_cautious, hdescribe, hsongs, halbums, records, rows, hrecords,
    hrows, rfl, hsum (by decide)⟩

end Service

end Songbook
