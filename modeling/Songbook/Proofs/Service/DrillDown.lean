import Songbook.Proofs.Plan.RowOrder
import Songbook.Proofs.Request.Wire
import Songbook.Proofs.Service.Answers
import Songbook.Proofs.Store.Classes
import Songbook.Proofs.Store.Matching
import Songbook.Proofs.Text.Lowering

/-!
# From an album to its songs

A row of a roll-up names an album, and a request for that album gives songs. Main statement: they
are the songs that the row has counted, in the order in which they are stored.
-/

namespace Songbook

theorem Value.equal_string_iff {s t : String} :
    (string s).equal .caseInsensitive (string t) = true ↔ Text.lower s = Text.lower t := by
  simp [equal, compare?, Collation.compare, Collation.key]

def Document.HasAlbum (doc : Document) : Prop :=
  ∃ s, doc.find? Plan.album = some (.string s)

namespace Plan

variable {doc : Document} {docs : List Document} {name : String}

theorem keyOf_album {s : String} (h : doc.find? album = some (.string s)) :
    Grouping.keyOf album doc = .string s ∧ doc.albumText = some (Text.lower s) := by
  constructor
  · rw [Grouping.keyOf, h]
    rfl
  · rw [Document.find?_of_not_mem (by decide)] at h
    rw [Document.albumText, h]

/-- Songs have equal albums exactly if the albums agree in small letters. -/
theorem rankedBy_albumText (h : ∀ doc ∈ docs, doc.HasAlbum) :
    Grouping.RankedBy .caseInsensitive album Document.albumText docs := by
  intro a ha b hb
  obtain ⟨s, hs⟩ := h a ha
  obtain ⟨t, ht⟩ := h b hb
  rw [(keyOf_album hs).1, (keyOf_album ht).1, (keyOf_album hs).2, (keyOf_album ht).2,
    Value.equal_string_iff, Option.some.injEq]

def songsOf (name : String) (docs : List Document) : List Document :=
  docs.filter fun doc => doc.albumText = some (Text.lower name)

theorem classOf_album (h : ∀ doc ∈ docs, doc.HasAlbum) (name : String) :
    Grouping.classOf .caseInsensitive album (.string name) docs = songsOf name docs := by
  apply List.filter_congr
  intro doc hdoc
  obtain ⟨s, hs⟩ := h doc hdoc
  rw [(keyOf_album hs).1, (keyOf_album hs).2, Bool.eq_iff_iff, Value.equal_string_iff]
  simp [eq_comm]

/-- The condition of equality to a lower-cased name selects the songs of the album. -/
theorem holds_album_iff (h : doc.HasAlbum) (name : String) :
    (Condition.compare .eq album (.string (Text.lower name))).holds .caseInsensitive doc = true ↔
      doc.albumText = some (Text.lower name) := by
  obtain ⟨s, hs⟩ := h
  rw [Condition.holds_eq_iff, Condition.fieldEquals_iff (by simp), hs, (keyOf_album hs).2]
  simp [itemsOf, Value.items, Value.equal_string_iff, Text.lower_lower]

end Plan

/-- The names of albums that stand for themselves in a request. -/
structure Askable (name : String) : Prop where
  ne_empty : name ≠ ""
  trimmed : Text.trim name = name
  whole : ',' ∉ name.toList
  line : '\n' ∉ name.toList

namespace Service

variable {service : Service} {stored : List Document} {name : String}

def albumRequest (name : String) : List (String × String) :=
  [("album", name)]

theorem ofPairs_albumRequest (name : String) :
    Params.ofPairs (albumRequest name) = ⟨[("album", [Text.lower name])]⟩ := by
  have hkey : Params.foldKey "album" = "album" := by decide
  simp [albumRequest, Params.ofPairs, Params.insert, Entries.alter, hkey]

theorem isFieldName_album : IsFieldName "album" :=
  ⟨by decide, by decide, by decide, Clause.bare_of_all (by decide)⟩

def albumPredicate (name : String) : Predicate :=
  .compare (.relation .eq) (.string (Text.lower name))

theorem predicate_album {types : FieldTypes} (htypes : types.get? "album" = none)
    (hname : Askable name) :
    Clause.predicate types "album" ⟨"album", .relation .eq, Text.lower name⟩ =
      albumPredicate name := by
  have hwhole : ',' ∉ (Text.lower name).toList := by
    rw [Text.mem_lower_iff (by decide)]
    exact hname.whole
  have htrim : Text.trim (Text.lower name) = Text.lower name := by
    rw [← Text.lower_trim, hname.trimmed]
  rw [Clause.predicate_of_bare types "album" hwhole, htypes, htrim]
  rfl

theorem describe_albumRequest (htypes : service.settings.fieldTypes.get? "album" = none)
    (hname : Askable name) :
    service.describe (.ofPairs (albumRequest name)) =
      .ok { filter := some (Filter.empty.insert "album" (albumPredicate name)) } := by
  have hne : Text.lower name ≠ "" := by
    rw [ne_eq, Text.lower_eq_empty_iff]
    exact hname.ne_empty
  have hline : '\n' ∉ (Text.lower name).toList := by
    rw [Text.mem_lower_iff (by decide)]
    exact hname.line
  rw [describe, ofPairs_albumRequest, Descriptor.ofParams_single _ (by decide),
    Filter.addParam_equation isFieldName_album hne hline, predicate_album htypes hname]
  rfl

theorem songs_of_album (htypes : service.settings.fieldTypes.get? "album" = none)
    (hstored : service.store.collection service.settings.collection = .ok stored)
    (halbums : ∀ doc ∈ stored, doc.HasAlbum) (hname : Askable name) :
    service.songs (.ofPairs (albumRequest name)) = .ok (Plan.songsOf name stored) := by
  have hfilter : stored.filter
      ((Condition.compare .eq "album" (.string (Text.lower name))).holds collation) =
        Plan.songsOf name stored := by
    apply List.filter_congr
    intro doc hdoc
    rw [Bool.eq_iff_iff, decide_eq_true_iff]
    exact Plan.holds_album_iff (halbums doc hdoc) name
  have hstages : Plan.songStages service.catalog
      { filter := some (Filter.empty.insert "album" (albumPredicate name)) } =
        .ok [.select (.compare .eq "album" (.string (Text.lower name)))] := rfl
  have hselected : service.selected
      { filter := some (Filter.empty.insert "album" (albumPredicate name)) } =
        .ok (Plan.songsOf name stored) := by
    rw [selected_of_stored hstored, hstages, ← hfilter]
    rfl
  rw [songs_of_describe (describe_albumRequest htypes hname), hselected]
  simp only [Except.map, songOrder, Option.getD_none, sortDocuments_nil, window_none_none]

/-- Without parameters the rows are those of all songs. -/
theorem albums_of_all (hcolumn : Plan.IsColumn service.settings.albumSumField)
    (hstored : service.store.collection service.settings.collection = .ok stored) :
    service.albums (.ofPairs []) =
      .ok (Plan.rollUp collation service.settings.albumSumField none stored) := by
  have hdescribe : service.describe (.ofPairs []) = .ok {} := rfl
  have hselected : service.selected {} = .ok stored := by
    rw [selected_of_stored hstored]
    rfl
  rw [albums_of_describe hdescribe hcolumn, hselected]
  simp only [Except.map, window_none_none]

/-- The row of an album has its name and counts the songs of that name. -/
theorem exists_name_of_row {row : Document} {defaultField : String}
    (halbums : ∀ doc ∈ stored, doc.HasAlbum)
    (hrow : row ∈ Plan.rollUp collation defaultField none stored) :
    ∃ name, row.get? Plan.album = some (.string name) ∧
      row.get? Plan.songCount =
        some (.int64 (Int64.ofNat (Plan.songsOf name stored).length)) := by
  obtain ⟨groups, hgroups, hrows⟩ := Plan.exists_groups collation defaultField none stored
  rw [hrows] at hrow
  obtain ⟨group, hmem, rfl⟩ := List.mem_map.1 hrow
  have hgroup := hgroups.mem_iff.1 hmem
  obtain ⟨first, hfirst, hkey⟩ := Grouping.exists_first hgroup
  obtain ⟨name, hname⟩ := halbums first hfirst
  rw [(Plan.keyOf_album hname).1] at hkey
  have hdocs := Grouping.docs_eq_classOf (Plan.rankedBy_albumText halbums) group hgroup
  rw [hkey, Plan.classOf_album halbums] at hdocs
  refine ⟨name, ?_, ?_⟩
  · rw [Plan.albumRow, Entries.get?_cons, if_pos rfl, hkey]
  · have hne : Plan.album ≠ Plan.songCount := by decide
    rw [Plan.albumRow, Entries.get?_cons, if_neg hne, Entries.get?_cons, if_pos rfl, hdocs]
    rfl

/-- Each row names an album, and a request for that album finds the songs of that name as they are
stored, as many as the row counts. -/
theorem albums_drill_down (service : Service) (hsettings : service.settings = {})
    (hstored : service.store.collection service.settings.collection = .ok stored)
    (halbums : ∀ doc ∈ stored, doc.HasAlbum) :
    ∃ rows, service.albums (.ofPairs []) = .ok rows ∧
      ∀ row ∈ rows, ∃ name, row.get? Plan.album = some (.string name) ∧
        (Askable name → ∃ records, service.songs (.ofPairs [("album", name)]) = .ok records ∧
          records = stored.filter (fun doc => doc.albumText = some (Text.lower name)) ∧
          row.get? Plan.songCount = some (.int64 (Int64.ofNat records.length)) ∧
          ((records.length : Int) ≤ Int64.maxValue.toInt →
            row.amount Plan.songCount = (records.length : Int))) := by
  have hcolumn : Plan.IsColumn service.settings.albumSumField := by
    rw [hsettings]
    decide
  have htypes : service.settings.fieldTypes.get? "album" = none := by
    rw [hsettings]
    decide
  refine ⟨_, albums_of_all hcolumn hstored, ?_⟩
  intro row hrow
  obtain ⟨name, hname, hcount⟩ := exists_name_of_row halbums hrow
  refine ⟨name, hname, fun hask => ?_⟩
  refine ⟨_, songs_of_album htypes hstored halbums hask, rfl, hcount, ?_⟩
  intro hfits
  exact Document.amount_of_count (by decide) hcount (by omega)

def redTwice : List Document := [
  [("song", .string "22"), ("album", .string "RED"), ("plays", .int32 3)],
  [("song", .string "Fearless"), ("album", .string "Fearless"), ("plays", .int32 5)],
  [("song", .string "Red"), ("album", .string "Red"), ("plays", .int32 4)]]

def redService : Service where
  store := ⟨[("taylorsongs", redTwice)]⟩

theorem albums_drill_down_red :
    redService.settings = {} ∧
      redService.store.collection redService.settings.collection = .ok redTwice ∧
      (∀ doc ∈ redTwice, doc.HasAlbum) ∧ Askable "RED" ∧
      ∃ rows row records, redService.albums (.ofPairs []) = .ok rows ∧ row ∈ rows ∧
        row.get? Plan.album = some (.string "RED") ∧
        redService.songs (.ofPairs [("album", "RED")]) = .ok records ∧
        records = redTwice.filter (fun doc => doc.albumText = some "red") ∧
        records.length = 2 ∧ row.get? Plan.songCount = some (.int64 2) := by
  let row : Document := [("album", .string "RED"), ("song-count", .int64 2), ("plays", .int64 7)]
  let other : Document :=
    [("album", .string "Fearless"), ("song-count", .int64 1), ("plays", .int64 5)]
  have halbums : ∀ doc ∈ redTwice, doc.HasAlbum := by
    simp only [redTwice, List.forall_mem_cons, List.not_mem_nil, false_imp_iff, implies_true,
      and_true]
    exact ⟨⟨"RED", rfl⟩, ⟨"Fearless", rfl⟩, ⟨"Red", rfl⟩⟩
  have hask : Askable "RED" := ⟨by decide, by decide, by decide, by decide⟩
  have hrows : redService.albums (.ofPairs []) = .ok [row, other] := rfl
  obtain ⟨rows, hok, hdrill⟩ := albums_drill_down redService rfl rfl halbums
  obtain rfl : [row, other] = rows := Except.ok.inj (hrows.symm.trans hok)
  obtain ⟨name, hname, hsongs⟩ := hdrill row List.mem_cons_self
  obtain rfl : "RED" = name := Value.string.inj (Option.some.inj hname)
  obtain ⟨records, hrecords, hfilter, hcount, -⟩ := hsongs hask
  refine ⟨rfl, rfl, halbums, hask, _, row, records, hok, List.mem_cons_self, rfl, hrecords,
    hfilter, ?_, rfl⟩
  rw [hfilter]
  rfl

end Service

end Songbook
