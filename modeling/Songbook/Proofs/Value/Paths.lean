import Songbook.Proofs.Text.Cutting
import Songbook.Value.Path

/-!
# Paths in documents

What a path finds, by its first key and the rest.
-/

namespace Songbook.Document

/-- A path without a point is a key. -/
theorem find?_of_not_mem {path : String} (h : '.' ∉ path.toList) (doc : Document) :
    doc.find? path = doc.get? path := by
  rw [find?, Text.pieces_of_not_mem h]
  rfl

/-- A path with a point leads nowhere in a document that embeds none. -/
theorem find?_of_mem {path : String} (h : '.' ∈ path.toList) {doc : Document}
    (hflat : ∀ key inner, doc.get? key ≠ some (.document inner)) : doc.find? path = none := by
  obtain ⟨first, second, rest, hpieces⟩ := Text.pieces_of_mem h
  rw [find?, hpieces, follow?]
  cases hget : doc.get? first with
  | none => rfl
  | some value =>
    cases value with
    | document inner => exact absurd hget (hflat first inner)
    | _ => rfl

def nested : List String → Value → Document
  | [], _ => []
  | [key], value => [(key, value)]
  | key :: next :: rest, value => [(key, .document (nested (next :: rest) value))]

theorem follow?_nested (keys : List String) (value : Value) (hne : keys ≠ []) :
    (nested keys value).follow? keys = some value := by
  induction keys with
  | nil => exact absurd rfl hne
  | cons key rest ih =>
    cases rest with
    | nil => simp [nested, follow?, Entries.get?]
    | cons next rest =>
      have hrest := ih (List.cons_ne_nil next rest)
      simp only [nested, follow?, Entries.get?_cons, if_true]
      exact hrest

end Songbook.Document
