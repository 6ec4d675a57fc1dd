import Songbook.Store.Ordering

/-!
# Sorted lists

Sorting rearranges a list. Where the order is total and transitive on the items of the list, though
perhaps nowhere else, the items come out in that order.
-/

namespace Songbook

namespace Sorting

universe u v

variable {α : Type u} {le : α → α → Bool} {xs : List α}

theorem stableSort_perm (le : α → α → Bool) (xs : List α) : (stableSort le xs).Perm xs := by
  rw [stableSort_eq]
  exact List.mergeSort_perm xs le

theorem stableSort_of_pairwise (h : xs.Pairwise fun a b => le a b = true) :
    stableSort le xs = xs := by
  rw [stableSort_eq]
  exact List.mergeSort_of_pairwise h

/-- The items sorted with their membership, on which the order may be total and transitive although
it is so nowhere else. -/
theorem stableSort_eq_attach (le : α → α → Bool) (xs : List α) :
    stableSort le xs = (xs.attach.mergeSort fun a b => le a.1 b.1).map Subtype.val := by
  rw [stableSort_eq, List.map_mergeSort (s := le) fun _ _ _ _ => rfl, List.attach_map_subtype_val]

section Members

variable
  (trans : ∀ a ∈ xs, ∀ b ∈ xs, ∀ c ∈ xs, le a b = true → le b c = true → le a c = true)
  (total : ∀ a ∈ xs, ∀ b ∈ xs, le a b = true ∨ le b a = true)

include trans in
theorem trans_members (a b c : {a // a ∈ xs}) (hab : le a.1 b.1 = true)
    (hbc : le b.1 c.1 = true) : le a.1 c.1 = true :=
  trans a.1 a.2 b.1 b.2 c.1 c.2 hab hbc

include total in
theorem total_members (a b : {a // a ∈ xs}) : (le a.1 b.1 || le b.1 a.1) = true := by
  rw [Bool.or_eq_true]
  exact total a.1 a.2 b.1 b.2

include trans total

theorem stableSort_pairwise : (stableSort le xs).Pairwise fun a b => le a b = true := by
  rw [stableSort_eq_attach, List.pairwise_map]
  exact List.pairwise_mergeSort (trans_members trans) (total_members total) xs.attach

/-- A part that is in order already keeps its order. -/
theorem sublist_stableSort {ys : List α} (hys : ys.Pairwise fun a b => le a b = true)
    (hsub : ys.Sublist xs) : ys.Sublist (stableSort le xs) := by
  have hattach : ys.Sublist (xs.attach.map Subtype.val) := by rwa [List.attach_map_subtype_val]
  obtain ⟨members, hmembers, rfl⟩ := List.sublist_map_iff.1 hattach
  rw [stableSort_eq_attach]
  apply List.Sublist.map
  exact List.sublist_mergeSort (trans_members trans) (total_members total)
    (List.pairwise_map.1 hys) hmembers

end Members

/-- On these items, turning a comparison round turns its result round, and what is not greater than
what is not greater is not greater. -/
structure Preordered (cmp : α → α → Ordering) (xs : List α) : Prop where
  swap : ∀ a ∈ xs, ∀ b ∈ xs, cmp b a = (cmp a b).swap
  trans : ∀ a ∈ xs, ∀ b ∈ xs, ∀ c ∈ xs,
    (cmp a b).isLE = true → (cmp b c).isLE = true → (cmp a c).isLE = true

instance (cmp : α → α → Ordering) (xs : List α) : Decidable (Preordered cmp xs) :=
  decidable_of_iff
    ((∀ a ∈ xs, ∀ b ∈ xs, cmp b a = (cmp a b).swap) ∧
      ∀ a ∈ xs, ∀ b ∈ xs, ∀ c ∈ xs,
        (cmp a b).isLE = true → (cmp b c).isLE = true → (cmp a c).isLE = true)
    ⟨fun h => ⟨h.1, h.2⟩, fun h => ⟨h.swap, h.trans⟩⟩

namespace Preordered

variable {first second : α → α → Ordering}

theorem congr (h : Preordered first xs) (heq : ∀ a ∈ xs, ∀ b ∈ xs, second a b = first a b) :
    Preordered second xs := by
  constructor
  · intro a ha b hb
    rw [heq a ha b hb, heq b hb a ha]
    exact h.swap a ha b hb
  · intro a ha b hb c hc hab hbc
    rw [heq a ha b hb] at hab
    rw [heq b hb c hc] at hbc
    rw [heq a ha c hc]
    exact h.trans a ha b hb c hc hab hbc

theorem level (xs : List α) : Preordered (fun _ _ => .eq) xs :=
  ⟨fun _ _ _ _ => rfl, fun _ _ _ _ _ _ _ _ => rfl⟩

/-- Items that are compared by their ranks. -/
theorem of_rank {β : Type v} [Ord β] [Std.TransOrd β] (rank : α → β) (xs : List α) :
    Preordered (fun a b => compare (rank a) (rank b)) xs :=
  ⟨fun _ _ _ _ => Std.OrientedOrd.eq_swap, fun _ _ _ _ _ _ => Std.TransOrd.isLE_trans⟩

theorem reverse (h : Preordered first xs) : Preordered (fun a b => (first a b).swap) xs := by
  constructor
  · intro a ha b hb
    rw [h.swap a ha b hb]
  · intro a ha b hb c hc hab hbc
    rw [← h.swap a ha b hb] at hab
    rw [← h.swap b hb c hc] at hbc
    rw [← h.swap a ha c hc]
    exact h.trans c hc b hb a ha hbc hab

theorem directed (h : Preordered first xs) (direction : Direction) :
    Preordered (fun a b => direction.apply (first a b)) xs := by
  cases direction with
  | ascending => exact h
  | descending => exact h.reverse

/-- Ties of the first comparison are broken by the second. -/
theorem thenBy (h : Preordered first xs) (h' : Preordered second xs) :
    Preordered (fun a b => (first a b).then (second a b)) xs := by
  constructor
  · intro a ha b hb
    rw [h.swap a ha b hb, h'.swap a ha b hb, Ordering.swap_then]
  · intro a ha b hb c hc hab hbc
    have hfirst := Ordering.isLE_left_of_isLE_then hab
    have hsecond := Ordering.isLE_left_of_isLE_then hbc
    have hac := h.trans a ha b hb c hc hfirst hsecond
    rw [Ordering.isLE_then_iff_or] at hab hbc ⊢
    cases hcompare : first a c with
    | lt => exact .inl rfl
    | gt =>
      rw [hcompare] at hac
      cases hac
    | eq =>
      -- Level ends leave no room for a step up in between.
      have hca : first c a = .eq := by rw [h.swap a ha c hc, hcompare]; rfl
      have hba := h.trans b hb c hc a ha hsecond (by rw [hca]; rfl)
      have hcb := h.trans c hc a ha b hb (by rw [hca]; rfl) hfirst
      rw [h.swap a ha b hb] at hba
      rw [h.swap b hb c hc] at hcb
      rcases hab with hab | ⟨-, hab⟩
      · rw [hab] at hba
        cases hba
      · rcases hbc with hbc | ⟨-, hbc⟩
        · rw [hbc] at hcb
          cases hcb
        · exact .inr ⟨rfl, h'.trans a ha b hb c hc hab hbc⟩

theorem total {cmp : α → α → Ordering} (h : Preordered cmp xs) :
    ∀ a ∈ xs, ∀ b ∈ xs, (cmp a b).isLE = true ∨ (cmp b a).isLE = true := by
  intro a ha b hb
  rw [h.swap a ha b hb]
  cases cmp a b with
  | lt => exact .inl rfl
  | eq => exact .inl rfl
  | gt => exact .inr rfl

theorem sorted {cmp : α → α → Ordering} (h : Preordered cmp xs) :
    (stableSort (fun a b => (cmp a b).isLE) xs).Pairwise fun a b => (cmp a b).isLE = true :=
  stableSort_pairwise h.trans h.total

end Preordered

end Sorting

variable {collation : Collation} {keys : List SortKey} {docs : List Document}

theorem SortKey.preordered_compareBy
    (h : ∀ key ∈ keys, Sorting.Preordered (key.compare collation) docs) :
    Sorting.Preordered (SortKey.compareBy collation keys) docs := by
  induction keys with
  | nil => exact .level docs
  | cons key keys ih =>
    have hrest := ih fun other hother => h other (List.mem_cons_of_mem _ hother)
    exact (h key List.mem_cons_self).thenBy hrest

/-- Where every key orders the documents, they come out in the order of the keys. -/
theorem sortDocuments_pairwise
    (h : ∀ key ∈ keys, Sorting.Preordered (key.compare collation) docs) :
    (sortDocuments collation keys docs).Pairwise fun a b =>
      (SortKey.compareBy collation keys a b).isLE = true :=
  (SortKey.preordered_compareBy h).sorted

theorem sortDocuments_perm (collation : Collation) (keys : List SortKey) (docs : List Document) :
    (sortDocuments collation keys docs).Perm docs :=
  Sorting.stableSort_perm _ docs

theorem mem_sortDocuments {doc : Document} : doc ∈ sortDocuments collation keys docs ↔ doc ∈ docs :=
  (sortDocuments_perm collation keys docs).mem_iff

theorem sortDocuments_nil (collation : Collation) (docs : List Document) :
    sortDocuments collation [] docs = docs := by
  apply Sorting.stableSort_of_pairwise
  exact List.pairwise_of_forall fun _ _ => rfl

end Songbook
