import Songbook.Proofs.Store.Groups

/-!
# Groups as classes

A document is put into the first group of an equal key, so no key of a group equals the key of a
later one. Main statement: where equality of the keys is sameness of a rank, each group holds
exactly the documents whose keys equal its own.
-/

namespace Songbook.Grouping

universe u

variable {collation : Collation} {field : String} {key : Value} {doc : Document}
  {groups : List DocumentGroup}

/-- A document joins the first group whose key equals its own, or founds the last group. -/
theorem assign_cases (collation : Collation) (key : Value) (doc : Document)
    (groups : List DocumentGroup) :
    (∃ before group after, groups = before ++ group :: after ∧
      (∀ other ∈ before, other.key.equal collation key = false) ∧
      group.key.equal collation key = true ∧
      assign collation key doc groups =
        before ++ ⟨group.key, group.docs ++ [doc]⟩ :: after) ∨
    ((∀ other ∈ groups, other.key.equal collation key = false) ∧
      assign collation key doc groups = groups ++ [⟨key, [doc]⟩]) := by
  induction groups with
  | nil => exact .inr ⟨by simp, rfl⟩
  | cons first rest ih =>
    by_cases hequal : first.key.equal collation key = true
    · exact .inl ⟨[], first, rest, rfl, by simp, hequal, by rw [assign, if_pos hequal]; rfl⟩
    · have hfirst := Bool.eq_false_iff.2 hequal
      rcases ih with ⟨before, group, after, hrest, hbefore, hgroup, hassign⟩ | ⟨hnone, hassign⟩
      · refine .inl ⟨first :: before, group, after, by rw [hrest]; rfl, ?_, hgroup, ?_⟩
        · intro other hother
          rcases List.mem_cons.1 hother with rfl | hother
          · exact hfirst
          · exact hbefore other hother
        · rw [assign, if_neg hequal, hassign]
          rfl
      · refine .inr ⟨?_, ?_⟩
        · intro other hother
          rcases List.mem_cons.1 hother with rfl | hother
          · exact hfirst
          · exact hnone other hother
        · rw [assign, if_neg hequal, hassign]
          rfl

def Apart (collation : Collation) (groups : List DocumentGroup) : Prop :=
  (groups.map DocumentGroup.key).Pairwise fun earlier later =>
    earlier.equal collation later = false

theorem apart_assign (h : Apart collation groups) :
    Apart collation (assign collation key doc groups) := by
  rcases assign_cases collation key doc groups with
    ⟨before, group, after, rfl, -, -, hassign⟩ | ⟨hnone, hassign⟩
  · have hkeys : (before ++ (⟨group.key, group.docs ++ [doc]⟩ : DocumentGroup) :: after).map
        DocumentGroup.key = (before ++ group :: after).map DocumentGroup.key := by simp
    rw [hassign, Apart, hkeys]
    exact h
  · rw [hassign, Apart, List.map_append]
    refine List.pairwise_append.2 ⟨h, List.pairwise_singleton _ _, ?_⟩
    intro other hother last hlast
    obtain ⟨group, hgroup, rfl⟩ := List.mem_map.1 hother
    obtain rfl := List.mem_singleton.1 hlast
    exact hnone group hgroup

theorem groups_apart (collation : Collation) (field : String) (docs : List Document) :
    Apart collation (Grouping.groups collation field docs) := by
  induction docs using groups_induction with
  | nil => exact List.Pairwise.nil
  | concat docs doc ih => exact apart_assign ih

def RankedBy {γ : Type u} (collation : Collation) (field : String) (rank : Document → γ)
    (docs : List Document) : Prop :=
  ∀ a ∈ docs, ∀ b ∈ docs,
    (keyOf field a).equal collation (keyOf field b) = true ↔ rank a = rank b

def classOf (collation : Collation) (field : String) (key : Value) (docs : List Document) :
    List Document :=
  docs.filter fun doc => key.equal collation (keyOf field doc)

theorem classOf_concat (key : Value) (docs : List Document) (doc : Document) :
    classOf collation field key (docs ++ [doc]) =
      if key.equal collation (keyOf field doc) then classOf collation field key docs ++ [doc]
      else classOf collation field key docs := by
  rw [classOf, List.filter_append, classOf]
  cases hequal : key.equal collation (keyOf field doc) <;> simp [hequal]

variable {γ : Type u} {rank : Document → γ} {docs : List Document} {group : DocumentGroup}

/-- Every group has the key of one of its documents. -/
theorem exists_first (hgroup : group ∈ Grouping.groups collation field docs) :
    ∃ first ∈ docs, group.key = keyOf field first := by
  obtain ⟨first, rest, hdocs, hkey, -⟩ := groups_formed collation field docs group hgroup
  have hfirst : first ∈ group.docs := by
    rw [hdocs]
    exact List.mem_cons_self
  exact ⟨first, (groups_sublist collation field docs group hgroup).subset hfirst, hkey⟩

theorem exists_group_of_mem (collation : Collation) (field : String) (hdoc : doc ∈ docs) :
    ∃ group ∈ Grouping.groups collation field docs, doc ∈ group.docs := by
  have hmem := (groups_docs_perm collation field docs).mem_iff.2 hdoc
  exact List.mem_flatMap.1 hmem

section Arrival

-- The document that comes next is ranked with those that are there.
variable (hrank : RankedBy collation field rank (docs ++ [doc]))

include hrank

theorem exists_first_ranked (hgroup : group ∈ Grouping.groups collation field docs) :
    ∃ first ∈ docs, group.key = keyOf field first ∧
      (group.key.equal collation (keyOf field doc) = true ↔ rank first = rank doc) := by
  obtain ⟨first, hfirst, hkey⟩ := exists_first hgroup
  refine ⟨first, hfirst, hkey, ?_⟩
  rw [hkey]
  exact hrank first (List.mem_append_left _ hfirst) doc (by simp)

/-- Two groups that the document could join have equal keys. -/
theorem keys_equal_of_joinable {other : DocumentGroup}
    (hgroup : group ∈ Grouping.groups collation field docs)
    (hother : other ∈ Grouping.groups collation field docs)
    (hequal : group.key.equal collation (keyOf field doc) = true)
    (hotherequal : other.key.equal collation (keyOf field doc) = true) :
    group.key.equal collation other.key = true := by
  obtain ⟨first, hfirst, hkey, hiff⟩ := exists_first_ranked hrank hgroup
  obtain ⟨second, hsecond, hotherkey, hotheriff⟩ := exists_first_ranked hrank hother
  rw [hkey, hotherkey]
  apply (hrank first (List.mem_append_left _ hfirst) second (List.mem_append_left _ hsecond)).2
  exact (hiff.1 hequal).trans (hotheriff.1 hotherequal).symm

/-- A document that no group takes has a key that no earlier one has. -/
theorem classOf_eq_nil
    (hclasses : ∀ other ∈ Grouping.groups collation field docs,
      other.docs = classOf collation field other.key docs)
    (hnone : ∀ other ∈ Grouping.groups collation field docs,
      other.key.equal collation (keyOf field doc) = false) :
    classOf collation field (keyOf field doc) docs = [] := by
  apply List.filter_eq_nil_iff.2
  intro earlier hearlier hequal
  have hmem : earlier ∈ docs ++ [doc] := List.mem_append_left _ hearlier
  obtain ⟨owner, howner, howned⟩ := exists_group_of_mem collation field hearlier
  obtain ⟨first, hfirst, hkey, hiff⟩ := exists_first_ranked hrank howner
  rw [hclasses owner howner, classOf, List.mem_filter, hkey] at howned
  have hfirstrank := (hrank first (List.mem_append_left _ hfirst) earlier hmem).1 howned.2
  have hlastrank := (hrank doc (by simp) earlier hmem).1 hequal
  have hdiffer := hnone owner howner
  rw [hiff.2 (hfirstrank.trans hlastrank.symm)] at hdiffer
  cases hdiffer

end Arrival

/-- Each group holds the documents whose keys equal its own, in their order. -/
theorem docs_eq_classOf (hrank : RankedBy collation field rank docs) :
    ∀ group ∈ Grouping.groups collation field docs,
      group.docs = classOf collation field group.key docs := by
  induction docs using groups_induction with
  | nil => simp
  | concat docs doc ih =>
    have hold := ih fun a ha b hb =>
      hrank a (List.mem_append_left _ ha) b (List.mem_append_left _ hb)
    have hpassed : ∀ other ∈ Grouping.groups collation field docs,
        other.key.equal collation (keyOf field doc) = false →
          other.docs = classOf collation field other.key (docs ++ [doc]) := by
      intro other hother hequal
      rw [classOf_concat, hequal]
      exact hold other hother
    intro group hgroup
    rcases assign_cases collation (keyOf field doc) doc (Grouping.groups collation field docs) with
      ⟨before, joined, after, hsplit, hbefore, hequal, hassign⟩ | ⟨hnone, hassign⟩
    · have hjoined : joined ∈ Grouping.groups collation field docs := by simp [hsplit]
      rw [hassign] at hgroup
      rcases List.mem_append.1 hgroup with hgroup | hgroup
      · exact hpassed group (by simp [hsplit, hgroup]) (hbefore group hgroup)
      rcases List.mem_cons.1 hgroup with rfl | hgroup
      · rw [classOf_concat, hequal, hold joined hjoined]
        rfl
      · have hmem : group ∈ Grouping.groups collation field docs := by simp [hsplit, hgroup]
        refine hpassed group hmem (Bool.eq_false_iff.2 fun hgroupequal => ?_)
        have hsame := keys_equal_of_joinable hrank hjoined hmem hequal hgroupequal
        have hapart := groups_apart collation field docs
        rw [Apart, hsplit, List.map_append, List.map_cons] at hapart
        have hdiffer := (List.pairwise_cons.1 (List.pairwise_append.1 hapart).2.1).1 group.key
          (List.mem_map_of_mem hgroup)
        rw [hsame] at hdiffer
        cases hdiffer
    · rw [hassign] at hgroup
      rcases List.mem_append.1 hgroup with hgroup | hgroup
      · exact hpassed group hgroup (hnone group hgroup)
      · obtain rfl := List.mem_singleton.1 hgroup
        have hself := (hrank doc (by simp) doc (by simp)).2 rfl
        rw [classOf_concat, hself, classOf_eq_nil hrank hold hnone]
        rfl

end Songbook.Grouping
