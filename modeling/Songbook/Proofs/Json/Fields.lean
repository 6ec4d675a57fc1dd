import Songbook.Json.Fields
import Songbook.Proofs.Sequencing

/-!
# Fields of structures in JSON

Main statement: the fields of a structure are read back from an object of them all.
-/

namespace Songbook.Json

theorem member?_of_mem {members : List (String × Json)} (hkeys : (members.map Prod.fst).Nodup)
    {key : String} {item : Json} (h : (key, item) ∈ members) :
    member? members key = some (some item) := by
  have hfilter : members.filter (·.1 == key) = [(key, item)] := by
    induction members with
    | nil => cases h
    | cons member members ih =>
      rw [List.map_cons, List.nodup_cons] at hkeys
      rcases List.mem_cons.1 h with rfl | hrest
      · have hnone : members.filter (·.1 == key) = [] := by
          apply List.filter_eq_nil_iff.2
          intro other hother hkey
          exact hkeys.1 (List.mem_map.2 ⟨other, hother, eq_of_beq hkey⟩)
        simp [hnone]
      · have hne : member.1 ≠ key := by
          rintro rfl
          exact hkeys.1 (List.mem_map.2 ⟨_, hrest, rfl⟩)
        simp [hne, ih hkeys.2 hrest]
  rw [member?, hfilter]

theorem fields?_object {members : List (String × Json)} (hkeys : (members.map Prod.fst).Nodup)
    (mayEndEarly : Bool) : fields? (members.map Prod.fst) mayEndEarly (object members) =
      some (members.map fun member => some member.2) :=
  Sequencing.mapM_map_eq_some fun _ hmember => member?_of_mem hkeys hmember

section Parts

variable {α β : Type} {write : α → Json} {read : Json → Option β} {g : α → β}

theorem optional?_written (hnull : ∀ a, write a ≠ null) {given : Option α}
    (h : ∀ a, given = some a → read (write a) = some (g a)) :
    optional? read (some ((given.map write).getD null)) = some (given.map g) := by
  cases given with
  | none => rfl
  | some a =>
    rw [Option.map_some, Option.getD_some, optional?, h a rfl]
    · rfl
    · exact hnull a

theorem array?_written {items : List α} (h : ∀ a ∈ items, read (write a) = some (g a)) :
    array? read (.array (items.map write)) = some (items.map g) :=
  Sequencing.mapM_map_eq_some h

end Parts

section Inverses

variable {α : Type} {write : α → Json} {read : Json → Option α}
  (h : ∀ a, read (write a) = some a)

include h

theorem optional?_inverse (hnull : ∀ a, write a ≠ null) (given : Option α) :
    optional? read (some ((given.map write).getD null)) = some given := by
  rw [optional?_written (g := id) hnull fun a _ => h a, Option.map_id_fun, id_eq]

theorem array?_inverse (items : List α) :
    array? read (.array (items.map write)) = some items := by
  rw [array?_written (g := id) fun a _ => h a, List.map_id]

end Inverses

end Songbook.Json
