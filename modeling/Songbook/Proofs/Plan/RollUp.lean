import Mathlib.Data.List.Perm.Basic
import Songbook.Plan
import Songbook.Proofs.Store.Endings
import Songbook.Proofs.Store.Groups

/-!
# The rows of a roll-up

What the stages of a roll-up make of the songs: one row of three columns for each group, in order.
-/

namespace Songbook.Plan

def albumRow (field : String) (group : DocumentGroup) : Document :=
  [(album, group.key), (songCount, Tally.count.of group.docs),
    (field, (Tally.sum field).of group.docs)]

/-- A name for a summed column, apart from the columns that every row has. -/
def IsColumn (field : String) : Prop := field ≠ album ∧ field ≠ songCount

instance (field : String) : Decidable (IsColumn field) := by
  unfold IsColumn
  infer_instance

theorem rollUpOrder_isColumn {defaultField : String} (h : IsColumn defaultField)
    (sort : Option (List SortKey)) : IsColumn (rollUpOrder defaultField sort).1 := by
  match sort with
  | none => exact h
  | some [] => exact h
  | some (first :: rest) =>
    by_cases halbum : first.field = album
    · simpa only [rollUpOrder, halbum, if_true] using h
    · by_cases hcount : first.field = songCount
      · have hne : songCount ≠ album := by decide
        simpa only [rollUpOrder, hcount, hne, if_false, if_true] using h
      · simp only [rollUpOrder, halbum, hcount, if_false]
        exact ⟨halbum, hcount⟩

theorem row_eq_albumRow {field : String} (h : IsColumn field) (group : DocumentGroup) :
    Grouping.row ⟨album, [(songCount, .count), (field, .sum field)]⟩ group =
      albumRow field group := by
  have hcount : album ≠ songCount := by decide
  simp [Grouping.row, Entries.insert, Entries.alter, albumRow, hcount, h.1.symm, h.2.symm]

theorem project_albumRow {field : String} (h : IsColumn field) (group : DocumentGroup) :
    (albumRow field group).project [album, songCount, field] = albumRow field group := by
  have hcount : album ≠ songCount := by decide
  simp [Document.project, albumRow, Entries.get?, Entries.ofList, Entries.insert, Entries.alter,
    hcount, h.1.symm, h.2.symm]

def rollUp (collation : Collation) (defaultField : String) (sort : Option (List SortKey))
    (docs : List Document) : List Document :=
  sortDocuments collation (rollUpOrder defaultField sort).2
    ((Grouping.groups collation album docs).map (albumRow (rollUpOrder defaultField sort).1))

section Sorts

variable (sort : Sorting.Procedure Document) (collation : Collation) (defaultField : String)
  (keys : Option (List SortKey)) (docs : List Document)

def rollUpBy : Option (List Document) :=
  sortDocumentsBy sort collation (rollUpOrder defaultField keys).2
    ((Grouping.groups collation album docs).map (albumRow (rollUpOrder defaultField keys).1))

theorem rollUpBy_merging : rollUpBy Sorting.merging collation defaultField keys docs =
    some (rollUp collation defaultField keys docs) := rfl

variable {sort collation defaultField keys docs}

/-- Each group has its row, whatever the order of the rows. -/
theorem exists_groups_of_rollUpBy (hsort : sort.IsStable) {rows : List Document}
    (h : rollUpBy sort collation defaultField keys docs = some rows) :
    ∃ groups : List DocumentGroup, groups.Perm (Grouping.groups collation album docs) ∧
      rows = groups.map (albumRow (rollUpOrder defaultField keys).1) := by
  have hcomp := congrFun₂ (List.eq_map_comp_perm (albumRow (rollUpOrder defaultField keys).1)) rows
    (Grouping.groups collation album docs)
  obtain ⟨groups, hrows, hgroups⟩ := hcomp.mpr (sortDocumentsBy_perm hsort h)
  exact ⟨groups, hgroups, hrows⟩

/-- Only the sort of its rows can give up, and the last stage does nothing to them. -/
theorem runAllBy_rollUpStages (hsort : sort.IsStable)
    (h : IsColumn (rollUpOrder defaultField keys).1) (docs : List Document) :
    Stage.runAllBy sort collation (rollUpStages defaultField keys) docs =
      .ofSort (rollUpBy sort collation defaultField keys docs) := by
  let field := (rollUpOrder defaultField keys).1
  let order := (rollUpOrder defaultField keys).2
  have hgroup : Grouping.run collation ⟨album, [(songCount, .count), (field, .sum field)]⟩ docs =
      (Grouping.groups collation album docs).map (albumRow field) :=
    List.map_congr_left fun group _ => row_eq_albumRow h group
  have hrun : Stage.runAllBy sort collation (rollUpStages defaultField keys) docs =
      Ending.ofSort (sortDocumentsBy sort collation order
        (Grouping.run collation ⟨album, [(songCount, .count), (field, .sum field)]⟩ docs)) >>=
          fun rows => .answer (rows.map (Document.project [album, songCount, field])) := rfl
  rw [hrun, hgroup]
  change Ending.ofSort (rollUpBy sort collation defaultField keys docs) >>= _ = _
  cases hrows : rollUpBy sort collation defaultField keys docs with
  | none => rfl
  | some rows =>
    obtain ⟨groups, -, rfl⟩ := exists_groups_of_rollUpBy hsort hrows
    refine congrArg Ending.answer ?_
    rw [List.map_map]
    exact List.map_congr_left fun group _ => project_albumRow h group

end Sorts

/-- Each group has its row, whatever the order of the rows. -/
theorem exists_groups (collation : Collation) (defaultField : String)
    (sort : Option (List SortKey)) (docs : List Document) :
    ∃ groups : List DocumentGroup, groups.Perm (Grouping.groups collation album docs) ∧
      rollUp collation defaultField sort docs =
        groups.map (albumRow (rollUpOrder defaultField sort).1) :=
  exists_groups_of_rollUpBy Sorting.isStable_merging
    (rollUpBy_merging collation defaultField sort docs)

end Songbook.Plan
