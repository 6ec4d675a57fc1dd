import Songbook.Proofs.Plan.RollUp
import Songbook.Proofs.Store.Totals
import Songbook.Proofs.Value.Paths

/-!
# The order of the rows

A roll-up keeps its sums under the name of the summed field, while the sort looks that name up as a
path. The two agree where the name holds no point. A name with a point finds nothing in a row, so
the rows then come in the order of the albums alone.
-/

namespace Songbook

def Document.albumText (row : Document) : Option String :=
  match row.get? Plan.album with
  | some (.string s) => some (Text.lower s)
  | _ => none

def AlbumsAscend (a b : Document) : Prop :=
  (compare a.albumText b.albumText).isLE = true

def Direction.Before : Direction → Int → Int → Prop
  | ascending, m, n => m < n
  | descending, m, n => n < m

namespace Direction

instance (direction : Direction) (m n : Int) : Decidable (direction.Before m n) := by
  cases direction <;> unfold Before <;> infer_instance

theorem apply_eq_eq_iff (direction : Direction) {o : Ordering} :
    direction.apply o = .eq ↔ o = .eq := by
  cases direction with
  | ascending => exact Iff.rfl
  | descending => exact Ordering.swap_eq_eq

theorem apply_compare_eq_lt_iff (direction : Direction) {m n : Int} :
    direction.apply (compare m n) = .lt ↔ direction.Before m n := by
  cases direction with
  | ascending => exact Int.compare_eq_lt
  | descending => exact Ordering.swap_eq_lt.trans Int.compare_eq_gt

end Direction

/-- Two rows in the order of their own summed columns, level ones by album. -/
def SumsOrdered (key : SortKey) (a b : Document) : Prop :=
  ∃ m n : Int64, a.get? key.field = some (.int64 m) ∧ b.get? key.field = some (.int64 n) ∧
    (key.direction.Before m.toInt n.toInt ∨ m = n ∧ AlbumsAscend a b)

def Value.isString : Value → Bool
  | string _ => true
  | _ => false

def Document.IsNamed (doc : Document) : Prop :=
  (doc.find? Plan.album).all Value.isString = true

instance (doc : Document) : Decidable doc.IsNamed :=
  inferInstanceAs (Decidable (_ = true))

theorem Document.isNamed_iff {doc : Document} :
    doc.IsNamed ↔
      doc.find? Plan.album = none ∨ ∃ s, doc.find? Plan.album = some (.string s) := by
  rw [IsNamed]
  cases doc.find? Plan.album with
  | none => simp
  | some value => cases value <;> simp [Value.isString]

def sameAlbum (doc : Document) (docs : List Document) : List Document :=
  docs.filter fun other =>
    (Grouping.keyOf Plan.album doc).equal .caseInsensitive (Grouping.keyOf Plan.album other)

/-- Documents whose field can be summed up by album in 64 bits, whatever their order. -/
structure Summable (field : String) (docs : List Document) : Prop where
  named : ∀ doc ∈ docs, doc.IsNamed
  integers : ∀ doc ∈ docs, doc.HoldsInteger field
  fits : ∀ doc ∈ docs, weight field (sameAlbum doc docs) ≤ Int64.maxValue.toInt.toNat

theorem Summable.of_sublist {field : String} {part whole : List Document}
    (h : Summable field whole) (hpart : part.Sublist whole) : Summable field part := by
  refine ⟨fun doc hdoc => h.named doc (hpart.subset hdoc),
    fun doc hdoc => h.integers doc (hpart.subset hdoc), ?_⟩
  intro doc hdoc
  have hsame : (sameAlbum doc part).Sublist (sameAlbum doc whole) := hpart.filter _
  exact Nat.le_trans (weight_le_of_sublist hsame) (h.fits doc (hpart.subset hdoc))

namespace Plan

variable {field : String} {docs : List Document} {group : DocumentGroup}

def IsAlbumKey (key : Value) : Prop := key = .null ∨ ∃ s, key = .string s

theorem isAlbumKey_keyOf {doc : Document} (h : doc.IsNamed) :
    IsAlbumKey (Grouping.keyOf album doc) := by
  rcases Document.isNamed_iff.1 h with h | ⟨s, h⟩
  · exact .inl (by rw [Grouping.keyOf, h]; rfl)
  · exact .inr ⟨s, by rw [Grouping.keyOf, h]; rfl⟩

theorem equal_self_of_isAlbumKey {key : Value} (h : IsAlbumKey key) :
    key.equal .caseInsensitive key = true := by
  rcases h with rfl | ⟨s, rfl⟩
  · rfl
  · simp [Value.equal, Value.compare?, Collation.compare]

theorem group_of_summable (h : Summable field docs)
    (hgroup : group ∈ Grouping.groups .caseInsensitive album docs) :
    IsAlbumKey group.key ∧ (∀ doc ∈ group.docs, doc.HoldsInteger field) ∧
      weight field group.docs ≤ Int64.maxValue.toInt.toNat := by
  have hsub := Grouping.groups_sublist _ _ _ group hgroup
  obtain ⟨first, rest, hdocs, hkey, hrest⟩ := Grouping.groups_formed _ _ _ group hgroup
  have hfirst : first ∈ docs := by
    apply hsub.subset
    rw [hdocs]
    exact List.mem_cons_self
  have halbum : IsAlbumKey group.key := by
    rw [hkey]
    exact isAlbumKey_keyOf (h.named first hfirst)
  refine ⟨halbum, fun doc hdoc => h.integers doc (hsub.subset hdoc), ?_⟩
  have hall : ∀ doc ∈ group.docs,
      (Grouping.keyOf album first).equal .caseInsensitive (Grouping.keyOf album doc) = true := by
    intro doc hdoc
    rw [hdocs] at hdoc
    rw [← hkey]
    rcases List.mem_cons.1 hdoc with rfl | hdoc
    · rw [← hkey]
      exact equal_self_of_isAlbumKey halbum
    · exact hrest doc hdoc
  have hsame : group.docs.Sublist (sameAlbum first docs) := by
    have hfilter := hsub.filter fun doc =>
      (Grouping.keyOf album first).equal .caseInsensitive (Grouping.keyOf album doc)
    rwa [List.filter_eq_self.2 hall] at hfilter
  exact Nat.le_trans (weight_le_of_sublist hsame) (h.fits first hfirst)

def sumRow (field : String) (key : Value) (count n : Int64) : Document :=
  [(album, key), (songCount, .int64 count), (field, .int64 n)]

theorem get?_sumRow (hcolumn : IsColumn field) (key : Value) (count n : Int64) :
    (sumRow field key count n).get? field = some (.int64 n) := by
  simp [sumRow, Entries.get?, hcolumn.1.symm, hcolumn.2.symm]

def IsRow (field : String) (row : Document) : Prop :=
  ∃ key count n, IsAlbumKey key ∧ row = sumRow field key count n

theorem isRow_of_summable (h : Summable field docs)
    (hgroup : group ∈ Grouping.groups .caseInsensitive album docs) :
    IsRow field (albumRow field group) := by
  obtain ⟨hkey, hints, hfits⟩ := group_of_summable h hgroup
  obtain ⟨n, hn, -⟩ := Tally.sum_exact hints hfits
  refine ⟨group.key, Int64.ofNat group.docs.length, n, hkey, ?_⟩
  rw [albumRow, hn]
  rfl

namespace IsRow

variable {row a b : Document}

theorem exists_key (h : IsRow field row) :
    ∃ key, IsAlbumKey key ∧ row.get? album = some key ∧ row.find? album = some key := by
  obtain ⟨key, count, n, hkey, rfl⟩ := h
  exact ⟨key, hkey, rfl, rfl⟩

theorem exists_sum (hcolumn : IsColumn field) (h : IsRow field row) :
    ∃ n : Int64, row.get? field = some (.int64 n) := by
  obtain ⟨key, count, n, hkey, rfl⟩ := h
  exact ⟨n, get?_sumRow hcolumn key count n⟩

theorem flat (h : IsRow field row) (name : String) (inner : List (String × Value)) :
    row.get? name ≠ some (.document inner) := by
  obtain ⟨key, count, n, hkey, rfl⟩ := h
  intro hget
  simp only [sumRow, Entries.get?] at hget
  split at hget
  · rcases hkey with rfl | ⟨s, rfl⟩ <;> cases hget
  · split at hget
    · cases hget
    · split at hget <;> cases hget

theorem compare_album (ha : IsRow field a) (hb : IsRow field b) :
    (SortKey.asc album).compare .caseInsensitive a b = compare a.albumText b.albumText := by
  obtain ⟨key, hkey, hgeta, hfinda⟩ := ha.exists_key
  obtain ⟨key', hkey', hgetb, hfindb⟩ := hb.exists_key
  have hfound : (SortKey.asc album).compare .caseInsensitive a b =
      Value.sortCompare .caseInsensitive key key' := by
    simp [SortKey.compare, SortKey.asc, Direction.apply, Value.sortCompareFound, hfinda, hfindb]
  rw [hfound, Document.albumText, Document.albumText, hgeta, hgetb]
  rcases hkey with rfl | ⟨s, rfl⟩
  · rcases hkey' with rfl | ⟨t, rfl⟩
    · rfl
    · rfl
  · rcases hkey' with rfl | ⟨t, rfl⟩
    · rfl
    · rfl

theorem compare_sum {key : SortKey} (hpoint : '.' ∉ key.field.toList) {m n : Int64}
    (ha : a.get? key.field = some (.int64 m)) (hb : b.get? key.field = some (.int64 n)) :
    key.compare .caseInsensitive a b = key.direction.apply (compare m.toInt n.toInt) := by
  rw [← Document.find?_of_not_mem hpoint] at ha hb
  rw [SortKey.compare, ha, hb]
  rfl

/-- By a column whose name is no path to it, all rows are level. -/
theorem compare_level {key : SortKey} (hpoint : '.' ∈ key.field.toList) (ha : IsRow field a)
    (hb : IsRow field b) : key.compare .caseInsensitive a b = .eq := by
  rw [SortKey.compare, Document.find?_of_mem hpoint ha.flat, Document.find?_of_mem hpoint hb.flat]
  cases key.direction <;> rfl

end IsRow

section Order

variable {defaultField : String} {key : SortKey} {rest : List SortKey}

theorem rollUpOrder_of_isColumn (hcolumn : IsColumn key.field) :
    rollUpOrder defaultField (some (key :: rest)) = (key.field, [key, .asc album]) := by
  rw [rollUpOrder, if_neg hcolumn.1, if_neg hcolumn.2]

theorem isColumn_of_key (hcolumn : IsColumn key.field) :
    IsColumn (rollUpOrder defaultField (some (key :: rest))).1 := by
  rw [rollUpOrder_of_isColumn hcolumn]
  exact hcolumn

/-- Both keys of a roll-up order its rows, whether or not the first finds its column. -/
theorem preordered_rows {rows : List Document} (hcolumn : IsColumn key.field)
    (hrows : ∀ row ∈ rows, IsRow key.field row) :
    ∀ other ∈ [key, .asc album],
      Sorting.Preordered (other.compare .caseInsensitive) rows := by
  intro other hother
  rcases List.mem_cons.1 hother with rfl | hother
  · by_cases hpoint : '.' ∈ other.field.toList
    · refine (Sorting.Preordered.level rows).congr ?_
      intro a ha b hb
      exact IsRow.compare_level hpoint (hrows a ha) (hrows b hb)
    · let sum := fun row : Document => row.amount other.field
      refine ((Sorting.Preordered.of_rank sum rows).directed other.direction).congr ?_
      intro a ha b hb
      obtain ⟨m, hm⟩ := (hrows a ha).exists_sum hcolumn
      obtain ⟨n, hn⟩ := (hrows b hb).exists_sum hcolumn
      have hsum : ∀ {row : Document} {k : Int64}, row.get? other.field = some (.int64 k) →
          row.amount other.field = k.toInt := by
        intro row k hk
        rw [Document.amount, Document.find?_of_not_mem hpoint, hk]
        rfl
      rw [IsRow.compare_sum hpoint hm hn, ← hsum hm, ← hsum hn]
  · obtain rfl := List.mem_singleton.1 hother
    refine (Sorting.Preordered.of_rank Document.albumText rows).congr ?_
    intro a ha b hb
    exact IsRow.compare_album (hrows a ha) (hrows b hb)

theorem isRow_of_mem_map (h : Summable field docs) :
    ∀ row ∈ (Grouping.groups .caseInsensitive album docs).map (albumRow field),
      IsRow field row := by
  intro row hrow
  obtain ⟨group, hgroup, rfl⟩ := List.mem_map.1 hrow
  exact isRow_of_summable h hgroup

theorem rollUp_pairwise (hcolumn : IsColumn key.field) (h : Summable key.field docs) :
    (rollUp .caseInsensitive defaultField (some (key :: rest)) docs).Pairwise fun a b =>
      IsRow key.field a ∧ IsRow key.field b ∧
        ((key.compare .caseInsensitive a b).then
          (compare a.albumText b.albumText)).isLE = true := by
  have hrows := isRow_of_mem_map h
  have hsorted := sortDocuments_pairwise (preordered_rows hcolumn hrows)
  rw [rollUp, rollUpOrder_of_isColumn hcolumn]
  refine hsorted.imp_of_mem ?_
  intro a b ha hb hle
  have hrowa := hrows a (mem_sortDocuments.1 ha)
  have hrowb := hrows b (mem_sortDocuments.1 hb)
  have hlast : ∀ o : Ordering, o.then .eq = o := by decide
  rw [SortKey.compareBy, SortKey.compareBy, SortKey.compareBy, hlast,
    IsRow.compare_album hrowa hrowb] at hle
  exact ⟨hrowa, hrowb, hle⟩

theorem rollUp_sums_ordered (hcolumn : IsColumn key.field) (hpoint : '.' ∉ key.field.toList)
    (h : Summable key.field docs) :
    (rollUp .caseInsensitive defaultField (some (key :: rest)) docs).Pairwise
      (SumsOrdered key) := by
  refine (rollUp_pairwise hcolumn h).imp ?_
  rintro a b ⟨ha, hb, hle⟩
  obtain ⟨m, hm⟩ := ha.exists_sum hcolumn
  obtain ⟨n, hn⟩ := hb.exists_sum hcolumn
  refine ⟨m, n, hm, hn, ?_⟩
  rw [IsRow.compare_sum hpoint hm hn, Ordering.isLE_then_iff_or] at hle
  rcases hle with hlt | ⟨heq, halbum⟩
  · exact .inl (key.direction.apply_compare_eq_lt_iff.1 hlt)
  · have hlevel := Int.compare_eq_eq.1 (key.direction.apply_eq_eq_iff.1 heq)
    exact .inr ⟨Int64.toInt_inj.1 hlevel, halbum⟩

theorem rollUp_albums_ascend (hcolumn : IsColumn key.field) (hpoint : '.' ∈ key.field.toList)
    (h : Summable key.field docs) :
    (rollUp .caseInsensitive defaultField (some (key :: rest)) docs).Pairwise AlbumsAscend := by
  refine (rollUp_pairwise hcolumn h).imp ?_
  rintro a b ⟨ha, hb, hle⟩
  rw [IsRow.compare_level hpoint ha hb] at hle
  exact hle

/-- A path into the albums finds nothing, as albums are no documents. -/
theorem find?_under_album {path : String} (hpoint : '.' ∈ path.toList)
    (hhead : (Text.pieces '.' path).head? = some album) {doc : Document} (h : doc.IsNamed) :
    doc.find? path = none := by
  obtain ⟨first, second, tail, hpieces⟩ := Text.pieces_of_mem hpoint
  obtain rfl : first = album := by
    rw [hpieces] at hhead
    exact Option.some.inj hhead
  have halbum : doc.find? album = doc.get? album := Document.find?_of_not_mem (by decide) doc
  rw [Document.find?, hpieces, Document.follow?]
  rcases Document.isNamed_iff.1 h with h | ⟨s, h⟩
  · rw [halbum] at h
    rw [h]
  · rw [halbum] at h
    rw [h]

theorem rollUp_sums_level (hcolumn : IsColumn key.field) (hpoint : '.' ∈ key.field.toList)
    (hhead : (Text.pieces '.' key.field).head? = some album) (h : Summable key.field docs) :
    (rollUp .caseInsensitive defaultField (some (key :: rest)) docs).Pairwise
      (SumsOrdered key) := by
  have hzero : ∀ row ∈ rollUp .caseInsensitive defaultField (some (key :: rest)) docs,
      row.get? key.field = some (.int64 0) := by
    intro row hrow
    rw [rollUp, rollUpOrder_of_isColumn hcolumn] at hrow
    obtain ⟨group, hgroup, rfl⟩ := List.mem_map.1 (mem_sortDocuments.1 hrow)
    have hsub := Grouping.groups_sublist _ _ _ group hgroup
    have hnone : group.docs.filterMap (·.find? key.field) = [] := by
      rw [List.filterMap_eq_nil_iff]
      intro doc hdoc
      exact find?_under_album hpoint hhead (h.named doc (hsub.subset hdoc))
    have hsum : (Tally.sum key.field).of group.docs = .int64 0 := by
      rw [Tally.of, hnone]
      rfl
    rw [albumRow, hsum]
    exact get?_sumRow hcolumn group.key _ 0
  refine (rollUp_albums_ascend hcolumn hpoint h).imp_of_mem ?_
  intro a b ha hb hascend
  exact ⟨0, 0, hzero a ha, hzero b hb, .inr ⟨rfl, hascend⟩⟩

end Order

end Plan

end Songbook
