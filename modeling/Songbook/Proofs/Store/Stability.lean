import Songbook.Proofs.Store.Sorted
import Songbook.Proofs.Value.Order

/-!
# Stability

A stable sort leaves level items in their order, and by this and the order of its result it is
determined. Main statement: sorting by several keys is the stable sort in the order of the first key
that tells two documents apart, and is done as well by one key after the other, the last key first.
-/

namespace Songbook

namespace Sorting

universe u v

variable {α : Type u} {cmp first second : α → α → Ordering} {xs ys zs : List α} {a b : α}

def levelWith (cmp : α → α → Ordering) (a : α) (xs : List α) : List α :=
  xs.filter fun b => cmp a b == .eq

theorem levelWith_cons (cmp : α → α → Ordering) (a b : α) (xs : List α) :
    levelWith cmp a (b :: xs) =
      if cmp a b = .eq then b :: levelWith cmp a xs else levelWith cmp a xs := by
  by_cases h : cmp a b = .eq <;> simp [levelWith, h]

theorem levelWith_then (first second : α → α → Ordering) (a : α) (xs : List α) :
    levelWith (fun a b => (first a b).then (second a b)) a xs =
      levelWith second a (levelWith first a xs) := by
  rw [levelWith, levelWith, levelWith, List.filter_filter]
  apply List.filter_congr
  intro b _
  cases first a b <;> cases second a b <;> rfl

theorem levelWith_comm (first second : α → α → Ordering) (a : α) (xs : List α) :
    levelWith second a (levelWith first a xs) = levelWith first a (levelWith second a xs) := by
  simp only [levelWith, List.filter_filter, Bool.and_comm]

/-- A rearrangement in order that leaves level items as they came. -/
structure StablySorted (cmp : α → α → Ordering) (xs ys : List α) : Prop where
  perm : ys.Perm xs
  ordered : ys.Pairwise fun a b => (cmp a b).isLE = true
  stable : ∀ a ∈ xs, levelWith cmp a ys = levelWith cmp a xs

namespace Preordered

theorem subset (h : Preordered cmp xs) (hsub : ys ⊆ xs) : Preordered cmp ys :=
  ⟨fun a ha b hb => h.swap a (hsub ha) b (hsub hb),
    fun a ha b hb c hc => h.trans a (hsub ha) b (hsub hb) c (hsub hc)⟩

theorem comap {β : Type v} {f : β → α} {items : List β} (h : Preordered cmp (items.map f)) :
    Preordered (fun a b => cmp (f a) (f b)) items := by
  have hmem : ∀ {a}, a ∈ items → f a ∈ items.map f := List.mem_map_of_mem
  exact ⟨fun a ha b hb => h.swap _ (hmem ha) _ (hmem hb),
    fun a ha b hb c hc => h.trans _ (hmem ha) _ (hmem hb) _ (hmem hc)⟩

theorem eq_of_isLE (h : Preordered cmp xs) (ha : a ∈ xs) (hb : b ∈ xs)
    (hab : (cmp a b).isLE = true) (hba : (cmp b a).isLE = true) : cmp a b = .eq := by
  rw [h.swap a ha b hb] at hba
  cases hcompare : cmp a b with
  | eq => rfl
  | lt =>
    rw [hcompare] at hba
    cases hba
  | gt =>
    rw [hcompare] at hab
    cases hab

theorem self (h : Preordered cmp xs) (ha : a ∈ xs) : cmp a a = .eq := by
  have hle : (cmp a a).isLE = true := (h.total a ha a ha).elim id id
  exact h.eq_of_isLE ha ha hle hle

/-- Items level with one item are in order, whatever their order is. -/
theorem pairwise_levelWith (h : Preordered cmp xs) (ha : a ∈ xs) :
    (levelWith cmp a xs).Pairwise fun b c => (cmp b c).isLE = true := by
  refine List.Pairwise.imp_of_mem ?_ (List.pairwise_of_forall fun _ _ => trivial)
  intro b c hb hc _
  obtain ⟨hb, hlevelb⟩ := List.mem_filter.1 hb
  obtain ⟨hc, hlevelc⟩ := List.mem_filter.1 hc
  have hba : (cmp b a).isLE = true := by
    rw [h.swap a ha b hb, beq_iff_eq.1 hlevelb]
    rfl
  have hac : (cmp a c).isLE = true := by
    rw [beq_iff_eq.1 hlevelc]
    rfl
  exact h.trans b hb a ha c hc hba hac

theorem stablySorted (h : Preordered cmp xs) :
    StablySorted cmp xs (stableSort (fun a b => (cmp a b).isLE) xs) := by
  have hperm := stableSort_perm (fun a b => (cmp a b).isLE) xs
  refine ⟨hperm, h.sorted, ?_⟩
  intro a ha
  have hsub := sublist_stableSort h.trans h.total (h.pairwise_levelWith ha) List.filter_sublist
  have hkept := hsub.filter fun b => cmp a b == .eq
  rw [levelWith, List.filter_filter] at hkept
  simp only [Bool.and_self] at hkept
  exact (hkept.eq_of_length (hperm.filter _).length_eq.symm).symm

/-- The first items of two such lists are level with each other, hence the same. -/
theorem eq_of_levelWith (h : Preordered cmp ys) (hperm : ys.Perm zs)
    (hys : ys.Pairwise fun a b => (cmp a b).isLE = true)
    (hzs : zs.Pairwise fun a b => (cmp a b).isLE = true)
    (hlevel : ∀ a ∈ ys, levelWith cmp a ys = levelWith cmp a zs) : ys = zs := by
  induction ys generalizing zs with
  | nil => exact hperm.nil_eq
  | cons y ys ih =>
    cases zs with
    | nil => exact hperm.eq_nil
    | cons z zs =>
      have hy : y ∈ y :: ys := List.mem_cons_self
      have hz : z ∈ y :: ys := hperm.mem_iff.2 List.mem_cons_self
      have hself := h.self hy
      have hyz : (cmp y z).isLE = true := by
        rcases List.mem_cons.1 hz with rfl | hmem
        · rw [hself]
          rfl
        · exact (List.pairwise_cons.1 hys).1 z hmem
      have hzy : (cmp z y).isLE = true := by
        rcases List.mem_cons.1 (hperm.mem_iff.1 hy) with rfl | hmem
        · exact hyz
        · exact (List.pairwise_cons.1 hzs).1 y hmem
      have hheads := hlevel y hy
      rw [levelWith_cons, levelWith_cons, if_pos hself, if_pos (h.eq_of_isLE hy hz hyz hzy)]
        at hheads
      obtain rfl := (List.cons.inj hheads).1
      congr 1
      refine ih (h.subset (List.subset_cons_self y ys)) hperm.cons_inv
        (List.pairwise_cons.1 hys).2 (List.pairwise_cons.1 hzs).2 ?_
      intro a ha
      have hboth := hlevel a (List.mem_cons_of_mem y ha)
      rw [levelWith_cons, levelWith_cons] at hboth
      split at hboth
      · exact (List.cons.inj hboth).2
      · exact hboth

end Preordered

namespace StablySorted

theorem unique (h : Preordered cmp xs) (hys : StablySorted cmp xs ys)
    (hzs : StablySorted cmp xs zs) : ys = zs := by
  apply (h.subset hys.perm.subset).eq_of_levelWith (hys.perm.trans hzs.perm.symm) hys.ordered
    hzs.ordered
  intro a ha
  have hmem := hys.perm.subset ha
  rw [hys.stable a hmem, hzs.stable a hmem]

theorem eq_stableSort (h : Preordered cmp xs) (hys : StablySorted cmp xs ys) :
    ys = stableSort (fun a b => (cmp a b).isLE) xs :=
  hys.unique h h.stablySorted

theorem filter (h : StablySorted cmp xs ys) (p : α → Bool) :
    StablySorted cmp (xs.filter p) (ys.filter p) := by
  refine ⟨h.perm.filter p, h.ordered.filter p, ?_⟩
  intro a ha
  have hlevel := h.stable a (List.mem_filter.1 ha).1
  have hswap : ∀ items : List α, levelWith cmp a (items.filter p) =
      (levelWith cmp a items).filter p := by
    intro items
    simp only [levelWith, List.filter_filter, Bool.and_comm]
  rw [hswap, hswap, hlevel]

/-- Where level items are those of equal rank, the items of one rank stay as they came. -/
theorem filter_rank_eq {β : Type v} [DecidableEq β] {rank : α → β} (h : StablySorted cmp xs ys)
    (hlevel : ∀ a ∈ xs, ∀ b ∈ xs, cmp a b = .eq ↔ rank a = rank b) (r : β) :
    ys.filter (rank · = r) = xs.filter (rank · = r) := by
  by_cases hrank : ∃ a ∈ xs, rank a = r
  · obtain ⟨a, ha, rfl⟩ := hrank
    have hfilter : ∀ {items : List α}, items ⊆ xs →
        items.filter (rank · = rank a) = levelWith cmp a items := by
      intro items hsub
      apply List.filter_congr
      intro b hb
      rw [Bool.eq_iff_iff, decide_eq_true_iff, beq_iff_eq, hlevel a ha b (hsub hb)]
      exact eq_comm
    rw [hfilter h.perm.subset, hfilter (List.Subset.refl xs), h.stable a ha]
  · have hnone : ∀ {items : List α}, items ⊆ xs → items.filter (rank · = r) = [] := by
      intro items hsub
      apply List.filter_eq_nil_iff.2
      intro a ha hr
      exact hrank ⟨a, hsub ha, decide_eq_true_iff.1 hr⟩
    rw [hnone h.perm.subset, hnone (List.Subset.refl xs)]

/-- A stable sort of what is sorted already breaks its own ties as they were sorted. -/
theorem thenBy (hfirst : Preordered first xs) (hys : StablySorted second xs ys)
    (hzs : StablySorted first ys zs) :
    StablySorted (fun a b => (first a b).then (second a b)) xs zs := by
  refine ⟨hzs.perm.trans hys.perm, ?_, ?_⟩
  · rw [List.pairwise_iff_forall_sublist]
    intro a b hpair
    have ha : a ∈ ys := hzs.perm.subset (hpair.subset List.mem_cons_self)
    have hab := List.pairwise_iff_forall_sublist.1 hzs.ordered hpair
    rw [Ordering.isLE_then_iff_or]
    cases hcompare : first a b with
    | lt => exact .inl rfl
    | gt =>
      rw [hcompare] at hab
      cases hab
    | eq =>
      have hself := hfirst.self (hys.perm.subset ha)
      have hlevel : levelWith first a [a, b] = [a, b] := by simp [levelWith, hself, hcompare]
      have hkept : [a, b].Sublist (levelWith first a zs) := by
        rw [← hlevel]
        exact hpair.filter _
      rw [hzs.stable a ha] at hkept
      have hsecond := List.pairwise_iff_forall_sublist.1 hys.ordered
        (hkept.trans List.filter_sublist)
      exact .inr ⟨rfl, hsecond⟩
  · intro a ha
    rw [levelWith_then, levelWith_then, hzs.stable a (hys.perm.mem_iff.2 ha), levelWith_comm,
      hys.stable a ha, levelWith_comm]

end StablySorted

/-- Selected items are sorted as they would be among all. -/
theorem stableSort_filter (h : Preordered cmp xs) (p : α → Bool) :
    stableSort (fun a b => (cmp a b).isLE) (xs.filter p) =
      (stableSort (fun a b => (cmp a b).isLE) xs).filter p := by
  have hfilter : Preordered cmp (xs.filter p) := h.subset List.filter_sublist.subset
  exact ((h.stablySorted.filter p).eq_stableSort hfilter).symm

end Sorting

variable {collation : Collation} {key : SortKey} {keys : List SortKey} {docs : List Document}

namespace SortKey

/-- What documents hold under the field of a key is ordered totally; nothing counts as null. -/
def Orders (collation : Collation) (docs : List Document) (key : SortKey) : Prop :=
  Sorting.Preordered (Value.sortCompareFound collation) (docs.map (·.find? key.field))

theorem Orders.preordered (h : key.Orders collation docs) :
    Sorting.Preordered (key.compare collation) docs :=
  h.comap.directed key.direction

theorem orders_of_settled
    (h : ∀ doc ∈ docs, ((doc.find? key.field).getD .null).Settled) : key.Orders collation docs := by
  have hsettled : ∀ value ∈ docs.map (·.find? key.field), (value.getD .null).Settled := by
    intro value hvalue
    obtain ⟨doc, hdoc, rfl⟩ := List.mem_map.1 hvalue
    exact h doc hdoc
  constructor
  · exact fun a _ b _ => Value.sortCompareFound_swap collation a b
  · intro a ha b hb c hc hab hbc
    have ha := hsettled a ha
    have hb := hsettled b hb
    have hc := hsettled c hc
    rw [Value.sortCompareFound, Value.sortCompare_eq_rankOrder ha hb] at hab
    rw [Value.sortCompareFound, Value.sortCompare_eq_rankOrder hb hc] at hbc
    rw [Value.sortCompareFound, Value.sortCompare_eq_rankOrder ha hc]
    exact Std.TransCmp.isLE_trans hab hbc

def Before (collation : Collation) (key : SortKey) (a b : Document) : Prop :=
  match key.direction with
  | .ascending => Value.sortCompareFound collation (a.find? key.field) (b.find? key.field) = .lt
  | .descending => Value.sortCompareFound collation (b.find? key.field) (a.find? key.field) = .lt

def Level (collation : Collation) (key : SortKey) (a b : Document) : Prop :=
  Value.sortCompareFound collation (a.find? key.field) (b.find? key.field) = .eq

instance (a b : Document) : Decidable (key.Level collation a b) :=
  inferInstanceAs (Decidable (_ = _))

theorem compare_eq_lt_iff {a b : Document} :
    key.compare collation a b = .lt ↔ key.Before collation a b := by
  unfold compare Before
  cases key.direction with
  | ascending => exact Iff.rfl
  | descending =>
    change (Value.sortCompareFound collation _ _).swap = .lt ↔ _
    rw [← Value.sortCompareFound_swap]

theorem compare_eq_eq_iff {a b : Document} :
    key.compare collation a b = .eq ↔ key.Level collation a b := by
  unfold compare Level
  cases key.direction with
  | ascending => exact Iff.rfl
  | descending => exact Ordering.swap_eq_eq

/-- Two documents in the order of the first key that tells them apart, if one does. -/
inductive InOrder (collation : Collation) : List SortKey → Document → Document → Prop
  | done {a b : Document} : InOrder collation [] a b
  | before {key : SortKey} {rest : List SortKey} {a b : Document} (h : key.Before collation a b) :
      InOrder collation (key :: rest) a b
  | level {key : SortKey} {rest : List SortKey} {a b : Document} (h : key.Level collation a b)
      (hrest : InOrder collation rest a b) : InOrder collation (key :: rest) a b

theorem isLE_compareBy_iff {a b : Document} :
    (compareBy collation keys a b).isLE = true ↔ InOrder collation keys a b := by
  induction keys with
  | nil => exact ⟨fun _ => .done, fun _ => rfl⟩
  | cons key rest ih =>
    rw [compareBy, Ordering.isLE_then_iff_or, compare_eq_lt_iff, compare_eq_eq_iff, ih]
    constructor
    · rintro (h | ⟨h, hrest⟩)
      · exact .before h
      · exact .level h hrest
    · intro h
      cases h with
      | before h => exact .inl h
      | level h hrest => exact .inr ⟨h, hrest⟩

theorem compareBy_eq_eq_iff {a b : Document} :
    compareBy collation keys a b = .eq ↔ ∀ key ∈ keys, key.Level collation a b := by
  induction keys with
  | nil => simp [compareBy]
  | cons key rest ih => simp [compareBy, Ordering.then_eq_eq, compare_eq_eq_iff, ih]

theorem compareBy_singleton (collation : Collation) (key : SortKey) :
    compareBy collation [key] = key.compare collation := by
  funext a b
  rw [compareBy, compareBy]
  cases key.compare collation a b <;> rfl

end SortKey

theorem sortDocuments_stablySorted (h : ∀ key ∈ keys, key.Orders collation docs) :
    Sorting.StablySorted (SortKey.compareBy collation keys) docs
      (sortDocuments collation keys docs) :=
  (SortKey.preordered_compareBy fun key hkey => (h key hkey).preordered).stablySorted

/-- The first key is sorted by last. -/
theorem sortDocuments_cons (h : ∀ other ∈ key :: keys, other.Orders collation docs) :
    sortDocuments collation (key :: keys) docs =
      sortDocuments collation [key] (sortDocuments collation keys docs) := by
  have hkey := (h key List.mem_cons_self).preordered
  have hrest := sortDocuments_stablySorted fun other hother =>
    h other (List.mem_cons_of_mem key hother)
  have hall := SortKey.preordered_compareBy fun other hother => (h other hother).preordered
  have hlast := (hkey.subset hrest.perm.subset).stablySorted
  refine ((hrest.thenBy hkey hlast).eq_stableSort hall).symm.trans ?_
  rw [← SortKey.compareBy_singleton]
  rfl

/-- Where the values under each key are ordered totally, documents are rearranged into the order of
the keys, and those that are level by all keys stay as they came, whatever the directions. It is as
well to sort by each key alone, from the last to the first. -/
theorem sortDocuments_stable (collation : Collation) (keys : List SortKey) (docs : List Document)
    (h : ∀ key ∈ keys, key.Orders collation docs) :
    (sortDocuments collation keys docs).Perm docs ∧
      (sortDocuments collation keys docs).Pairwise (SortKey.InOrder collation keys) ∧
      (∀ doc ∈ docs,
        (sortDocuments collation keys docs).filter
            (fun other => ∀ key ∈ keys, key.Level collation doc other) =
          docs.filter fun other => ∀ key ∈ keys, key.Level collation doc other) ∧
      sortDocuments collation keys docs =
        keys.foldr (fun key sorted => sortDocuments collation [key] sorted) docs := by
  have hstable := sortDocuments_stablySorted h
  refine ⟨hstable.perm, hstable.ordered.imp SortKey.isLE_compareBy_iff.1, ?_, ?_⟩
  · intro doc hdoc
    have hlevel : ∀ items : List Document,
        items.filter (fun other => ∀ key ∈ keys, key.Level collation doc other) =
          Sorting.levelWith (SortKey.compareBy collation keys) doc items := by
      intro items
      apply List.filter_congr
      intro other _
      rw [Bool.eq_iff_iff, decide_eq_true_iff, beq_iff_eq, SortKey.compareBy_eq_eq_iff]
    rw [hlevel, hlevel, hstable.stable doc hdoc]
  · clear hstable
    induction keys with
    | nil => exact sortDocuments_nil collation docs
    | cons key keys ih =>
      rw [sortDocuments_cons h, List.foldr_cons,
        ← ih fun other hother => h other (List.mem_cons_of_mem key hother)]

def redAnd1989 : List Document := [
  [("song", .string "Red"), ("album", .string "Red"), ("year", .int32 2012)],
  [("song", .string "Carolina")],
  [("song", .string "22"), ("album", .string "RED"), ("year", .int64 2012)],
  [("song", .string "Style"), ("album", .string "1989"), ("year", .int32 2014)]]

theorem sortDocuments_stable_years :
    (∀ key ∈ [SortKey.desc "year", .asc "album"], key.Orders .caseInsensitive redAnd1989) ∧
      (sortDocuments .caseInsensitive [.desc "year", .asc "album"] redAnd1989).filter
          (fun other => ∀ key ∈ [SortKey.desc "year", .asc "album"],
            key.Level .caseInsensitive redAnd1989[0] other) =
        [redAnd1989[0], redAnd1989[2]] := by
  have horders : ∀ key ∈ [SortKey.desc "year", .asc "album"],
      key.Orders .caseInsensitive redAnd1989 := by
    intro key hkey
    apply SortKey.orders_of_settled
    revert key
    decide
  obtain ⟨-, -, hlevel, -⟩ := sortDocuments_stable .caseInsensitive _ redAnd1989 horders
  refine ⟨horders, (hlevel redAnd1989[0] List.mem_cons_self).trans ?_⟩
  rfl

end Songbook
