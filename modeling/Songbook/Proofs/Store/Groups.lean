import Songbook.Store.Grouping

/-!
# Groups of documents

What putting one document into a group preserves, and from it what holds of the groups of a whole
list: no document is lost or doubled, and each group holds its documents in their order, the first
of them naming the key.
-/

namespace Songbook

def DocumentGroup.Formed (collation : Collation) (field : String) (group : DocumentGroup) : Prop :=
  ∃ first rest, group.docs = first :: rest ∧ group.key = Grouping.keyOf field first ∧
    ∀ doc ∈ rest, group.key.equal collation (Grouping.keyOf field doc) = true

namespace Grouping

variable {collation : Collation} {field : String} {key : Value} {doc : Document}

theorem assign_docs_perm (collation : Collation) (key : Value) (doc : Document)
    (groups : List DocumentGroup) :
    ((assign collation key doc groups).flatMap DocumentGroup.docs).Perm
      (groups.flatMap DocumentGroup.docs ++ [doc]) := by
  induction groups with
  | nil => exact List.Perm.refl _
  | cons group rest ih =>
    by_cases hequal : group.key.equal collation key = true
    · simp only [assign, hequal, if_true, List.flatMap_cons, List.append_assoc]
      apply List.Perm.append_left
      exact List.perm_append_comm
    · simp only [assign, hequal, if_false, List.flatMap_cons, List.append_assoc,
        Bool.false_eq_true]
      exact List.Perm.append_left _ ih

/-- A group after a step is a group from before, a group from before with the new document at its
end, or the group of the new document alone. -/
theorem mem_assign {group : DocumentGroup} {groups : List DocumentGroup}
    (h : group ∈ assign collation key doc groups) :
    group ∈ groups ∨
      (∃ old ∈ groups, old.key.equal collation key = true ∧ group = ⟨old.key, old.docs ++ [doc]⟩) ∨
      group = ⟨key, [doc]⟩ := by
  induction groups with
  | nil =>
    have hnew : group = ⟨key, [doc]⟩ := List.mem_singleton.1 h
    exact .inr (.inr hnew)
  | cons first rest ih =>
    by_cases hequal : first.key.equal collation key = true
    · rw [assign, if_pos hequal] at h
      rcases List.mem_cons.1 h with hfirst | hrest
      · exact .inr (.inl ⟨first, List.mem_cons_self, hequal, hfirst⟩)
      · exact .inl (List.mem_cons_of_mem _ hrest)
    · rw [assign, if_neg hequal] at h
      rcases List.mem_cons.1 h with hfirst | hrest
      · exact .inl (hfirst ▸ List.mem_cons_self)
      · rcases ih hrest with hold | ⟨old, hold, hkey, hgroup⟩ | hnew
        · exact .inl (List.mem_cons_of_mem _ hold)
        · exact .inr (.inl ⟨old, List.mem_cons_of_mem _ hold, hkey, hgroup⟩)
        · exact .inr (.inr hnew)

theorem formed_assign {groups : List DocumentGroup}
    (h : ∀ group ∈ groups, group.Formed collation field) :
    ∀ group ∈ assign collation (keyOf field doc) doc groups, group.Formed collation field := by
  intro group hmem
  rcases mem_assign hmem with hold | ⟨old, hold, hequal, rfl⟩ | rfl
  · exact h group hold
  · obtain ⟨first, rest, hdocs, hkey, hrest⟩ := h old hold
    refine ⟨first, rest ++ [doc], by rw [hdocs]; rfl, hkey, ?_⟩
    intro other hother
    rcases List.mem_append.1 hother with hother | hother
    · exact hrest other hother
    · rw [List.mem_singleton.1 hother]
      exact hequal
  · exact ⟨doc, [], rfl, rfl, by simp⟩

theorem sublist_assign {groups : List DocumentGroup} {seen : List Document}
    (h : ∀ group ∈ groups, group.docs.Sublist seen) :
    ∀ group ∈ assign collation key doc groups, group.docs.Sublist (seen ++ [doc]) := by
  intro group hmem
  rcases mem_assign hmem with hold | ⟨old, hold, -, rfl⟩ | rfl
  · exact (h group hold).trans (List.sublist_append_left seen [doc])
  · exact (h old hold).append (List.Sublist.refl [doc])
  · exact List.sublist_append_right seen [doc]

theorem groups_concat (collation : Collation) (field : String) (docs : List Document)
    (doc : Document) :
    groups collation field (docs ++ [doc]) =
      assign collation (keyOf field doc) doc (groups collation field docs) := by
  rw [groups, groups, List.foldl_append]
  rfl

/-- What holds without documents, and goes on to hold with one more, holds of all groups. -/
theorem groups_induction {motive : List Document → List DocumentGroup → Prop}
    (nil : motive [] [])
    (concat : ∀ docs doc, motive docs (groups collation field docs) →
      motive (docs ++ [doc]) (assign collation (keyOf field doc) doc (groups collation field docs)))
    (docs : List Document) : motive docs (groups collation field docs) := by
  have hreverse : ∀ docs : List Document,
      motive docs.reverse (groups collation field docs.reverse) := by
    intro docs
    induction docs with
    | nil => exact nil
    | cons doc docs ih =>
      rw [List.reverse_cons, groups_concat]
      exact concat docs.reverse doc ih
  have hdocs := hreverse docs.reverse
  rwa [List.reverse_reverse] at hdocs

theorem groups_docs_perm (collation : Collation) (field : String) (docs : List Document) :
    ((groups collation field docs).flatMap DocumentGroup.docs).Perm docs := by
  induction docs using groups_induction with
  | nil => exact List.Perm.refl _
  | concat docs doc ih => exact (assign_docs_perm _ _ _ _).trans (ih.append_right [doc])

theorem groups_formed (collation : Collation) (field : String) (docs : List Document) :
    ∀ group ∈ groups collation field docs, group.Formed collation field := by
  induction docs using groups_induction with
  | nil => simp
  | concat docs doc ih => exact formed_assign ih

theorem groups_sublist (collation : Collation) (field : String) (docs : List Document) :
    ∀ group ∈ groups collation field docs, group.docs.Sublist docs := by
  induction docs using groups_induction with
  | nil => simp
  | concat docs doc ih => exact sublist_assign ih

end Grouping

end Songbook
