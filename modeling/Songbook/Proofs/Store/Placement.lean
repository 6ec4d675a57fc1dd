import Songbook.Proofs.Store.Classes

/-!
# Places of documents

Each document is put into one group. Groups are numbered as they are founded, so the numbers of the
groups that the documents go to tell which documents a group holds and which it came before.
-/

namespace Songbook.Grouping

variable {collation : Collation} {field : String} {docs : List Document} {doc : Document}
  {groups : List DocumentGroup} {places : List Nat} {place : Nat}

def membersAt (places : List Nat) (docs : List Document) (place : Nat) : List Document :=
  ((docs.zip places).filter fun entry => entry.2 = place).map Prod.fst

theorem zip_concat (h : places.length = docs.length) (doc : Document) (place : Nat) :
    (docs ++ [doc]).zip (places ++ [place]) = docs.zip places ++ [(doc, place)] :=
  List.zip_append h.symm

theorem membersAt_concat (h : places.length = docs.length) (doc : Document) (place other : Nat) :
    membersAt (places ++ [place]) (docs ++ [doc]) other =
      membersAt places docs other ++ if place = other then [doc] else [] := by
  rw [membersAt, membersAt, zip_concat h, List.filter_append, List.map_append]
  by_cases hplace : place = other <;> simp [hplace]

theorem membersAt_eq_nil (h : place ∉ places) : membersAt places docs place = [] := by
  rw [membersAt, List.map_eq_nil_iff, List.filter_eq_nil_iff]
  intro entry hentry hplace
  have hmem := (List.of_mem_zip hentry).2
  rw [of_decide_eq_true hplace] at hmem
  exact h hmem

theorem eraseDups_concat (places : List Nat) (place : Nat) :
    (places ++ [place]).eraseDups =
      if place ∈ places then places.eraseDups else places.eraseDups ++ [place] := by
  rw [List.eraseDups_append]
  by_cases h : place ∈ places <;> simp [List.removeAll, List.eraseDups_cons, h]

/-- What the places of documents say about their groups. -/
structure Placed (collation : Collation) (field : String) (docs : List Document)
    (groups : List DocumentGroup) (places : List Nat) : Prop where
  length_eq : places.length = docs.length
  order : places.eraseDups = List.range groups.length
  members : ∀ place group, groups[place]? = some group → membersAt places docs place = group.docs
  passed : ∀ entry ∈ docs.zip places, ∀ key ∈ (groups.map DocumentGroup.key).take entry.2,
    key.equal collation (keyOf field entry.1) = false

namespace Placed

theorem mem_iff (h : Placed collation field docs groups places) :
    place ∈ places ↔ place < groups.length := by
  rw [← List.mem_eraseDups, h.order, List.mem_range]

theorem nil : Placed collation field [] [] [] :=
  ⟨rfl, rfl, by simp, by simp⟩

/-- A document that joins a group goes to its place. -/
theorem join {before after : List DocumentGroup} {group : DocumentGroup}
    (h : Placed collation field docs (before ++ group :: after) places)
    (hbefore : ∀ other ∈ before, other.key.equal collation (keyOf field doc) = false) :
    Placed collation field (docs ++ [doc])
      (before ++ ⟨group.key, group.docs ++ [doc]⟩ :: after) (places ++ [before.length]) := by
  have hat : ∀ other : DocumentGroup,
      (before ++ other :: after)[before.length]? = some other := by simp
  have hset : before ++ (⟨group.key, group.docs ++ [doc]⟩ : DocumentGroup) :: after =
      (before ++ group :: after).set before.length ⟨group.key, group.docs ++ [doc]⟩ := by simp
  have hkeys : (before ++ (⟨group.key, group.docs ++ [doc]⟩ : DocumentGroup) :: after).map
      DocumentGroup.key = (before ++ group :: after).map DocumentGroup.key := by simp
  constructor
  · rw [List.length_append, List.length_append, h.length_eq]
    rfl
  · have hmem : before.length ∈ places := h.mem_iff.2 (by simp)
    rw [eraseDups_concat, if_pos hmem, h.order]
    simp
  · intro place other hother
    rw [membersAt_concat h.length_eq]
    by_cases hplace : before.length = place
    · subst hplace
      obtain rfl := Option.some.inj (hother.symm.trans (hat _))
      rw [h.members _ group (hat group), if_pos rfl]
    · rw [hset, List.getElem?_set_ne hplace] at hother
      rw [h.members place other hother, if_neg hplace, List.append_nil]
  · intro entry hentry key hkey
    rw [zip_concat h.length_eq] at hentry
    rw [hkeys] at hkey
    rcases List.mem_append.1 hentry with hentry | hentry
    · exact h.passed entry hentry key hkey
    · obtain rfl := List.mem_singleton.1 hentry
      rw [List.map_append, List.take_left' (by simp)] at hkey
      obtain ⟨other, hother, rfl⟩ := List.mem_map.1 hkey
      exact hbefore other hother

/-- A document that founds a group goes to a place of its own. -/
theorem found (h : Placed collation field docs groups places)
    (hnone : ∀ other ∈ groups, other.key.equal collation (keyOf field doc) = false) :
    Placed collation field (docs ++ [doc]) (groups ++ [⟨keyOf field doc, [doc]⟩])
      (places ++ [groups.length]) := by
  have hnew : groups.length ∉ places := fun hmem => Nat.lt_irrefl _ (h.mem_iff.1 hmem)
  constructor
  · rw [List.length_append, List.length_append, h.length_eq]
    rfl
  · rw [eraseDups_concat, if_neg hnew, h.order, List.length_append, List.length_singleton,
      List.range_succ]
  · intro place group hgroup
    rw [membersAt_concat h.length_eq]
    by_cases hplace : groups.length = place
    · subst hplace
      obtain rfl := Option.some.inj (hgroup.symm.trans List.getElem?_concat_length)
      rw [membersAt_eq_nil hnew, if_pos rfl]
      rfl
    · have hlt : place < groups.length := by
        have hbound := (List.getElem?_eq_some_iff.1 hgroup).1
        rw [List.length_append, List.length_singleton] at hbound
        omega
      rw [List.getElem?_append_left hlt] at hgroup
      rw [h.members place group hgroup, if_neg hplace, List.append_nil]
  · intro entry hentry key hkey
    rw [zip_concat h.length_eq] at hentry
    rw [List.map_append] at hkey
    rcases List.mem_append.1 hentry with hentry | hentry
    · have hplace := h.mem_iff.1 (List.of_mem_zip hentry).2
      rw [List.take_append_of_le_length (by simpa using Nat.le_of_lt hplace)] at hkey
      exact h.passed entry hentry key hkey
    · obtain rfl := List.mem_singleton.1 hentry
      rw [List.take_left' (by simp)] at hkey
      obtain ⟨other, hother, rfl⟩ := List.mem_map.1 hkey
      exact hnone other hother

end Placed

theorem exists_placed (collation : Collation) (field : String) (docs : List Document) :
    ∃ places, Placed collation field docs (Grouping.groups collation field docs) places := by
  induction docs using groups_induction with
  | nil => exact ⟨[], .nil⟩
  | concat docs doc ih =>
    obtain ⟨places, h⟩ := ih
    rcases assign_cases collation (keyOf field doc) doc (Grouping.groups collation field docs) with
      ⟨before, group, after, hsplit, hbefore, -, hassign⟩ | ⟨hnone, hassign⟩
    · rw [hsplit] at h
      rw [hassign]
      exact ⟨_, h.join hbefore⟩
    · rw [hassign]
      exact ⟨_, h.found hnone⟩

end Songbook.Grouping
