import Songbook.Proofs.Number.Reading
import Songbook.Proofs.Plan.RowOrder
import Songbook.Proofs.Request.Wire
import Songbook.Proofs.Service.Answers

/-!
# The order of the albums

For which fields the answer for albums comes in the order of the column that it sums.
-/

namespace Songbook

/-- A sort key that comes first in what some texts under `sort` ask for. -/
def SortKey.Readable (key : SortKey) : Prop :=
  ∃ (texts : List String) (rest : List SortKey),
    SortKey.ofValues (texts.map Text.lower) = key :: rest

namespace Service

variable {service : Service} {params : Params} {descriptor : Descriptor}
  {stored docs rows : List Document} {key : SortKey} {rest : List SortKey}

def LeavesSummable (service : Service) (descriptor : Descriptor) (field : String)
    (stored : List Document) : Prop :=
  ∀ question stages docs, descriptor.question = some question →
    service.catalog.lookup question.name question.param = .ok (.pipeline stages) →
    Stage.runAll collation stages stored = .ok docs → Summable field docs

/-- Every answer for albums without a window, to a request that sorts by the key first and over
songs that can be summed up, comes in the given order. -/
def AlbumsOrdered (key : SortKey) (order : Document → Document → Prop) : Prop :=
  ∀ (service : Service) (params : Params) (descriptor : Descriptor) (rest : List SortKey)
    (stored rows : List Document),
    service.describe params = .ok descriptor → descriptor.sort = some (key :: rest) →
    descriptor.skip = none → descriptor.limit = none →
    service.store.collection service.settings.collection = .ok stored →
    Summable key.field stored → service.LeavesSummable descriptor key.field stored →
    service.albums params = .ok rows → rows.Pairwise order

theorem summable_of_selected {field : String}
    (hstored : service.store.collection service.settings.collection = .ok stored)
    (hsum : Summable field stored) (hleaves : service.LeavesSummable descriptor field stored)
    (hselected : service.selected descriptor = .ok docs) : Summable field docs := by
  have hfilter : ∀ filter : Option Condition,
      liftStore (Stage.runAll collation (filter.map Stage.select).toList stored) = .ok docs →
        Summable field docs := by
    intro filter hrun
    rw [Stage.runAll_select] at hrun
    rw [← Except.ok.inj hrun]
    exact hsum.of_sublist List.filter_sublist
  rw [selected_of_stored hstored] at hselected
  unfold Plan.songStages at hselected
  cases hquestion : descriptor.question with
  | none =>
    simp only [hquestion] at hselected
    cases hcondition : Plan.liftRequest (Filter.condition descriptor.filter) with
    | error e =>
      rw [hcondition] at hselected
      cases hselected
    | ok filter =>
      rw [hcondition] at hselected
      exact hfilter filter hselected
  | some question =>
    simp only [hquestion] at hselected
    cases hlookup : service.catalog.lookup question.name question.param with
    | error e =>
      rw [hlookup] at hselected
      cases hselected
    | ok recipe =>
      rw [hlookup] at hselected
      cases recipe with
      | search filter sort => exact hfilter filter hselected
      | pipeline stages =>
        have hrun : liftStore (Stage.runAll collation stages stored) = .ok docs := hselected
        cases hstages : Stage.runAll collation stages stored with
        | error e =>
          rw [hstages] at hrun
          cases hrun
        | ok left =>
          rw [hstages] at hrun
          obtain rfl : left = docs := Except.ok.inj hrun
          exact hleaves question stages left hquestion hlookup hstages

theorem albumsOrdered_of_rollUp {order : Document → Document → Prop}
    (hcolumn : Plan.IsColumn key.field)
    (h : ∀ defaultField rest docs, Summable key.field docs →
      (Plan.rollUp collation defaultField (some (key :: rest)) docs).Pairwise order) :
    AlbumsOrdered key order := by
  intro service params descriptor rest stored rows hdescribe hsort hskip hlimit hstored hsum
    hleaves halbums
  have horder : Plan.IsColumn
      (Plan.rollUpOrder service.settings.albumSumField descriptor.sort).1 := by
    rw [hsort]
    exact Plan.isColumn_of_key hcolumn
  rw [albums_of_describe hdescribe horder, hskip, hlimit, hsort] at halbums
  cases hselected : service.selected descriptor with
  | error e =>
    rw [hselected] at halbums
    cases halbums
  | ok docs =>
    rw [hselected] at halbums
    have hrows := Except.ok.inj halbums
    simp only [window_none_none] at hrows
    rw [← hrows]
    exact h _ rest docs (summable_of_selected hstored hsum hleaves hselected)

theorem describe_sort (service : Service) {texts : List String}
    (h : SortKey.ofValues (texts.map Text.lower) = key :: rest) :
    service.describe (Params.ofPairs (texts.map fun text => ("sort", text))) =
      .ok { sort := some (key :: rest) } := by
  have hne : texts ≠ [] := by
    rintro rfl
    cases h
  rw [describe, Params.ofPairs_sort texts hne, Descriptor.ofParams_sort, h]
  rfl

theorem albums_of_sort (service : Service) {texts : List String}
    (h : SortKey.ofValues (texts.map Text.lower) = key :: rest) (hcolumn : Plan.IsColumn key.field)
    (hstored : service.store.collection service.settings.collection = .ok stored) :
    service.albums (Params.ofPairs (texts.map fun text => ("sort", text))) =
      .ok (Plan.rollUp collation service.settings.albumSumField (some (key :: rest)) stored) := by
  have hselected : service.selected { sort := some (key :: rest) } = .ok stored := by
    rw [selected_of_stored hstored]
    rfl
  rw [albums_of_describe (describe_sort service h) (Plan.isColumn_of_key hcolumn), hselected]
  simp only [Except.map, window_none_none]

section Misplaced

variable {field : String}

def songAt (field albumName : String) (n : Int64) : Document :=
  (Plan.album, .string albumName) :: Document.nested (Text.pieces '.' field) (.int64 n)

theorem find?_album_songAt (albumName : String) (n : Int64) :
    (songAt field albumName n).find? Plan.album = some (.string albumName) := by
  rw [Document.find?_of_not_mem (by decide)]
  rfl

theorem find?_songAt (hpoint : '.' ∈ field.toList)
    (hhead : (Text.pieces '.' field).head? ≠ some Plan.album) (albumName : String) (n : Int64) :
    (songAt field albumName n).find? field = some (.int64 n) := by
  obtain ⟨first, second, tail, hpieces⟩ := Text.pieces_of_mem hpoint
  have hfollow := Document.follow?_nested (Text.pieces '.' field) (.int64 n) (by simp [hpieces])
  have hfirst : Plan.album ≠ first := by
    rintro rfl
    exact hhead (by rw [hpieces]; rfl)
  have hskip : ∀ doc : Document,
      Document.follow? (first :: second :: tail) ((Plan.album, .string albumName) :: doc) =
        Document.follow? (first :: second :: tail) doc := by
    intro doc
    simp only [Document.follow?, Entries.get?_cons, if_neg hfirst]
  rw [hpieces] at hfollow
  rw [Document.find?, songAt, hpieces, hskip, hfollow]

theorem groups_songsAt (m n : Int64) :
    Grouping.groups .caseInsensitive Plan.album [songAt field "a" m, songAt field "b" n] =
      [⟨.string "a", [songAt field "a" m]⟩, ⟨.string "b", [songAt field "b" n]⟩] := by
  have hkey : ∀ (albumName : String) (n : Int64),
      Grouping.keyOf Plan.album (songAt field albumName n) = .string albumName := by
    intro albumName n
    rw [Grouping.keyOf, find?_album_songAt]
    rfl
  have hapart : (Value.string "a").equal .caseInsensitive (.string "b") = false := by decide
  simp [Grouping.groups, Grouping.assign, hkey, hapart]

theorem summable_songsAt (hpoint : '.' ∈ field.toList)
    (hhead : (Text.pieces '.' field).head? ≠ some Plan.album) {m n : Int64}
    (hsmall : m.toInt.natAbs + n.toInt.natAbs ≤ 1) :
    Summable field [songAt field "a" m, songAt field "b" n] := by
  have hamount : ∀ (albumName : String) (n : Int64),
      (songAt field albumName n).amount field = n.toInt := by
    intro albumName n
    rw [Document.amount, find?_songAt hpoint hhead]
    rfl
  have hweight : weight field [songAt field "a" m, songAt field "b" n] =
      m.toInt.natAbs + n.toInt.natAbs := by
    rw [weight_cons, weight_cons, hamount, hamount]
    rfl
  have hnamed : ∀ (albumName : String) (n : Int64), (songAt field albumName n).IsNamed := by
    intro albumName n
    exact Document.isNamed_iff.2 (.inr ⟨albumName, find?_album_songAt albumName n⟩)
  have hinteger : ∀ (albumName : String) (n : Int64),
      (songAt field albumName n).HoldsInteger field := by
    intro albumName n
    rw [Document.HoldsInteger, find?_songAt hpoint hhead]
    rfl
  constructor
  · simp [hnamed]
  · simp [hinteger]
  · intro doc _
    have hsame : weight field (sameAlbum doc [songAt field "a" m, songAt field "b" n]) ≤
        weight field [songAt field "a" m, songAt field "b" n] :=
      weight_le_of_sublist List.filter_sublist
    have hmax : 1 ≤ Int64.maxValue.toInt.toNat := by decide
    omega

/-- Two albums of one song each keep the order of their names, whatever their sums. -/
theorem rollUp_songsAt {key : SortKey} (hcolumn : Plan.IsColumn key.field)
    (hpoint : '.' ∈ key.field.toList)
    (hhead : (Text.pieces '.' key.field).head? ≠ some Plan.album)
    (defaultField : String) (rest : List SortKey) (m n : Int64) :
    Plan.rollUp .caseInsensitive defaultField (some (key :: rest))
        [songAt key.field "a" m, songAt key.field "b" n] =
      [Plan.sumRow key.field (.string "a") 1 m, Plan.sumRow key.field (.string "b") 1 n] := by
  have hzero : ∀ k : Int64, (Total.of [.int64 k]).toValue = .int64 k := by
    intro k
    simp [Total.of, Total.add, Value.integer?, Number.int64?_toInt, Total.toValue]
  have hrow : ∀ (albumName : String) (k : Int64),
      Plan.albumRow key.field ⟨.string albumName, [songAt key.field albumName k]⟩ =
        Plan.sumRow key.field (.string albumName) 1 k := by
    intro albumName k
    have hfound : [songAt key.field albumName k].filterMap (·.find? key.field) = [.int64 k] := by
      rw [List.filterMap_cons_some (find?_songAt hpoint hhead albumName k)]
      rfl
    rw [Plan.albumRow, Tally.of, Tally.of, hfound, hzero]
    rfl
  rw [Plan.rollUp, Plan.rollUpOrder_of_isColumn hcolumn, groups_songsAt, List.map_cons,
    List.map_cons, List.map_nil, hrow, hrow]
  apply Sorting.stableSort_of_pairwise
  have hisRow : ∀ (albumName : String) (k : Int64),
      Plan.IsRow key.field (Plan.sumRow key.field (.string albumName) 1 k) :=
    fun albumName k => ⟨.string albumName, 1, k, .inr ⟨albumName, rfl⟩, rfl⟩
  rw [List.pairwise_pair, SortKey.compareBy, SortKey.compareBy, SortKey.compareBy,
    Plan.IsRow.compare_level hpoint (hisRow "a" m) (hisRow "b" n),
    Plan.IsRow.compare_album (hisRow "a" m) (hisRow "b" n)]
  rfl

end Misplaced

def misplaced : Direction → Int64 × Int64
  | .ascending => (1, 0)
  | .descending => (0, 1)

theorem not_albumsOrdered (hcolumn : Plan.IsColumn key.field) (hread : key.Readable)
    (hpoint : '.' ∈ key.field.toList)
    (hhead : (Text.pieces '.' key.field).head? ≠ some Plan.album) :
    ¬ AlbumsOrdered key (SumsOrdered key) := by
  intro hordered
  obtain ⟨texts, rest, hkeys⟩ := hread
  let m := (misplaced key.direction).1
  let n := (misplaced key.direction).2
  let songs := [songAt key.field "a" m, songAt key.field "b" n]
  let service : Service := { store := ⟨[("taylorsongs", songs)]⟩ }
  have hsum : Summable key.field songs := by
    apply summable_songsAt hpoint hhead
    cases hdirection : key.direction <;> simp [m, n, misplaced, hdirection]
  have hpairwise := hordered service _ _ rest songs _ (describe_sort service hkeys) rfl rfl rfl rfl
    hsum (fun _ _ _ hquestion => nomatch hquestion) (service.albums_of_sort hkeys hcolumn rfl)
  have hrows := rollUp_songsAt hcolumn hpoint hhead service.settings.albumSumField rest m n
  rw [collation, hrows, List.pairwise_pair] at hpairwise
  obtain ⟨m', n', hm, hn, hsums⟩ := hpairwise
  rw [Plan.get?_sumRow hcolumn] at hm hn
  obtain rfl : m = m' := Value.int64.inj (Option.some.inj hm)
  obtain rfl : n = n' := Value.int64.inj (Option.some.inj hn)
  have hagainst : ∀ direction : Direction,
      ¬ direction.Before (misplaced direction).1.toInt (misplaced direction).2.toInt ∧
        (misplaced direction).1 ≠ (misplaced direction).2 := by
    intro direction
    cases direction with
    | ascending => exact ⟨by decide, by decide⟩
    | descending => exact ⟨by decide, by decide⟩
  rcases hsums with hbefore | ⟨hlevel, -⟩
  · exact (hagainst key.direction).1 hbefore
  · exact (hagainst key.direction).2 hlevel

/-- The albums come in the order of their sums exactly if the name of the summed field is no path,
or a path into the albums, where there is nothing to sum. Under a path they come in the order of the
albums. -/
theorem albums_follow_sums_iff {key : SortKey} (hcolumn : Plan.IsColumn key.field)
    (hread : key.Readable) :
    (AlbumsOrdered key (SumsOrdered key) ↔
      '.' ∉ key.field.toList ∨ (Text.pieces '.' key.field).head? = some Plan.album) ∧
    ('.' ∈ key.field.toList → AlbumsOrdered key AlbumsAscend) := by
  refine ⟨⟨?_, ?_⟩, ?_⟩
  · intro hordered
    by_cases hpoint : '.' ∈ key.field.toList
    · by_cases hhead : (Text.pieces '.' key.field).head? = some Plan.album
      · exact .inr hhead
      · exact absurd hordered (not_albumsOrdered hcolumn hread hpoint hhead)
    · exact .inl hpoint
  · intro hplain
    apply albumsOrdered_of_rollUp hcolumn
    intro defaultField rest docs hsum
    by_cases hpoint : '.' ∈ key.field.toList
    · have hhead := hplain.resolve_left fun h => h hpoint
      exact Plan.rollUp_sums_level hcolumn hpoint hhead hsum
    · exact Plan.rollUp_sums_ordered hcolumn hpoint hsum
  · intro hpoint
    apply albumsOrdered_of_rollUp hcolumn
    intro defaultField rest docs hsum
    exact Plan.rollUp_albums_ascend hcolumn hpoint hsum

def playsInSongs : List Document := [
  [("album", .string "1989"), ("plays", .int32 10)],
  [("album", .string "Red"), ("plays", .int32 30)]]

theorem albums_follow_sums_plays :
    Plan.IsColumn "plays" ∧ (SortKey.desc "plays").Readable ∧ Summable "plays" playsInSongs ∧
      ∃ rows, albums { store := ⟨[("taylorsongs", playsInSongs)]⟩ }
          (Params.ofPairs [("sort", "-plays")]) = .ok rows ∧
        rows.length = 2 ∧ rows.Pairwise (SumsOrdered (.desc "plays")) := by
  let service : Service := { store := ⟨[("taylorsongs", playsInSongs)]⟩ }
  have hcolumn : Plan.IsColumn "plays" := by decide
  have hkeys : SortKey.ofValues (["-plays"].map Text.lower) = [.desc "plays"] := rfl
  have hread : (SortKey.desc "plays").Readable := ⟨["-plays"], [], hkeys⟩
  have hsum : Summable "plays" playsInSongs := ⟨by decide, by decide, by decide⟩
  let rows : List Document := [
    [("album", .string "Red"), ("song-count", .int64 1), ("plays", .int64 30)],
    [("album", .string "1989"), ("song-count", .int64 1), ("plays", .int64 10)]]
  have hstored : service.store.collection service.settings.collection = .ok playsInSongs := rfl
  have hrows : Plan.rollUp collation "plays" (some [.desc "plays"]) playsInSongs = rows := rfl
  have halbums := (service.albums_of_sort hkeys hcolumn hstored).trans (congrArg Except.ok hrows)
  have hordered := (albums_follow_sums_iff hcolumn hread).1.2 (.inl (by decide))
  have hpairwise := hordered service _ _ [] playsInSongs rows (describe_sort service hkeys) rfl rfl
    rfl hstored hsum (fun _ _ _ hquestion => nomatch hquestion) halbums
  exact ⟨hcolumn, hread, hsum, rows, halbums, rfl, hpairwise⟩

def playsInStats : List Document := [
  [("album", .string "1989"), ("stats", .document [("plays", .int32 10)])],
  [("album", .string "Red"), ("stats", .document [("plays", .int32 30)])]]

/-- The album of more plays comes last, though the order descends by plays. -/
theorem albums_against_sums :
    describe { store := ⟨[("taylorsongs", playsInStats)]⟩ }
        (Params.ofPairs [("sort", "-stats.plays")]) = .ok { sort := some [.desc "stats.plays"] } ∧
      Summable "stats.plays" playsInStats ∧
      ∃ rows, albums { store := ⟨[("taylorsongs", playsInStats)]⟩ }
          (Params.ofPairs [("sort", "-stats.plays")]) = .ok rows ∧
        ¬ rows.Pairwise (SumsOrdered (.desc "stats.plays")) := by
  let service : Service := { store := ⟨[("taylorsongs", playsInStats)]⟩ }
  let rows : List Document := [
    [("album", .string "1989"), ("song-count", .int64 1), ("stats.plays", .int64 10)],
    [("album", .string "Red"), ("song-count", .int64 1), ("stats.plays", .int64 30)]]
  have hkeys : SortKey.ofValues (["-stats.plays"].map Text.lower) = [.desc "stats.plays"] := rfl
  have hstored : service.store.collection service.settings.collection = .ok playsInStats := rfl
  have hrows : Plan.rollUp collation "plays" (some [.desc "stats.plays"]) playsInStats = rows := rfl
  have halbums := service.albums_of_sort hkeys (by decide) hstored
  have hsum : Summable "stats.plays" playsInStats := ⟨by decide, by decide, by decide⟩
  refine ⟨describe_sort service hkeys, hsum, rows, halbums.trans (congrArg Except.ok hrows), ?_⟩
  intro hpairwise
  obtain ⟨m, n, hm, hn, hsums⟩ := List.pairwise_pair.1 hpairwise
  obtain rfl : 10 = m := Value.int64.inj (Option.some.inj hm)
  obtain rfl : 30 = n := Value.int64.inj (Option.some.inj hn)
  rcases hsums with hbefore | ⟨hlevel, -⟩
  · exact absurd hbefore (by decide)
  · exact absurd hlevel (by decide)

end Service

end Songbook
