import Songbook.Proofs.Value.Paths

/-!
# Joined paths

A path leads from key to key through embedded documents. Main statement: two paths with a point
between them lead where the second leads from what the first finds, so that a path finds exactly the
values at the end of keys without a point.
-/

namespace Songbook

def Value.document? : Value → Option Document
  | .document inner => some inner
  | _ => none

theorem Value.bind_document?_eq_some_iff {found : Option Value} {inner : Document} :
    found.bind document? = some inner ↔ found = some (.document inner) := by
  cases found with
  | none => simp
  | some value => cases value <;> simp [document?]

namespace Document

variable {doc : Document} {keys more : List String} {value : Value}

/-- The value stands at the end of the keys; all before the last hold documents. -/
inductive Leads : Document → List String → Value → Prop
  | key {doc key value} : Entries.get? key doc = some value → Leads doc [key] value
  | into {doc key inner keys value} : Entries.get? key doc = some (.document inner) →
      Leads inner keys value → Leads doc (key :: keys) value

theorem follow?_cons (hne : keys ≠ []) (key : String) (doc : Document) :
    doc.follow? (key :: keys) = ((doc.get? key).bind Value.document?).bind (follow? keys) := by
  obtain ⟨next, rest, rfl⟩ := List.exists_cons_of_ne_nil hne
  rw [follow?]
  cases doc.get? key with
  | none => rfl
  | some found => cases found <;> rfl

theorem follow?_append (hne : keys ≠ []) (hmore : more ≠ []) (doc : Document) :
    doc.follow? (keys ++ more) =
      ((doc.follow? keys).bind Value.document?).bind (follow? more) := by
  induction keys generalizing doc with
  | nil => exact absurd rfl hne
  | cons key rest ih =>
    cases rest with
    | nil => exact follow?_cons hmore key doc
    | cons next rest =>
      have hrest : next :: rest ≠ [] := List.cons_ne_nil next rest
      rw [List.cons_append, follow?_cons (List.append_ne_nil_of_left_ne_nil hrest more),
        follow?_cons hrest]
      cases (doc.get? key).bind Value.document? with
      | none => rfl
      | some inner => exact ih hrest inner

theorem follow?_eq_some_iff : doc.follow? keys = some value ↔ doc.Leads keys value := by
  induction keys generalizing doc with
  | nil => exact iff_of_false (fun h => nomatch h) (fun h => nomatch h)
  | cons key rest ih =>
    by_cases hrest : rest = []
    · subst hrest
      constructor
      · exact .key
      · rintro (hget | ⟨-, hnone⟩)
        · exact hget
        · cases hnone
    · rw [follow?_cons hrest, Option.bind_eq_some_iff]
      constructor
      · rintro ⟨inner, hinner, hfollow⟩
        exact .into (Value.bind_document?_eq_some_iff.1 hinner) (ih.1 hfollow)
      · intro h
        cases h with
        | key => exact absurd rfl hrest
        | into hget hleads =>
          exact ⟨_, Value.bind_document?_eq_some_iff.2 hget, ih.2 hleads⟩

theorem find?_append (doc : Document) (path rest : String) :
    doc.find? (path ++ "." ++ rest) =
      ((doc.find? path).bind Value.document?).bind (find? rest) := by
  rw [find?, Text.pieces_append rfl,
    follow?_append (Text.pieces_ne_nil '.' path) (Text.pieces_ne_nil '.' rest)]
  rfl

/-- The keys of a path are its pieces. -/
theorem find?_eq_some_iff {path : String} : doc.find? path = some value ↔
    ∃ keys, keys ≠ [] ∧ ".".intercalate keys = path ∧ (∀ key ∈ keys, '.' ∉ key.toList) ∧
      doc.Leads keys value := by
  constructor
  · intro h
    exact ⟨Text.pieces '.' path, Text.pieces_ne_nil '.' path, Text.intercalate_pieces rfl path,
      fun key => Text.notMem_of_mem_pieces, follow?_eq_some_iff.1 h⟩
  · rintro ⟨keys, hne, rfl, hbare, hleads⟩
    rw [find?, Text.pieces_intercalate rfl hne hbare]
    exact follow?_eq_some_iff.2 hleads

/-- What is stored under a key with a point has no part in what keys without one lead to. -/
theorem follow?_alter {key : String} (hpoint : '.' ∈ key.toList) (f : Option Value → Value)
    (hbare : ∀ key ∈ keys, '.' ∉ key.toList) (doc : Document) :
    Document.follow? keys (doc.alter key f) = doc.follow? keys := by
  cases keys with
  | nil => rfl
  | cons first rest =>
    have hne : key ≠ first := by
      rintro rfl
      exact hbare key List.mem_cons_self hpoint
    cases rest with
    | nil => exact Entries.get?_alter_of_ne hne f doc
    | cons next rest => rw [follow?, follow?, Entries.get?_alter_of_ne hne f doc]

/-- Paths compose at the points between them, whatever their keys are. A path without a point is a
key; a path finds what keys without points lead to, never what stands under a key with one; and
nothing is found past a value that is no document. -/
theorem paths_compose (doc : Document) (path rest : String) :
    (∀ value, doc.find? (path ++ "." ++ rest) = some value ↔
      ∃ inner : Document, doc.find? path = some (.document inner) ∧
        inner.find? rest = some value) ∧
    ('.' ∉ path.toList → doc.find? path = doc.get? path) ∧
    (∀ value, doc.find? path = some value ↔
      ∃ keys, keys ≠ [] ∧ ".".intercalate keys = path ∧ (∀ key ∈ keys, '.' ∉ key.toList) ∧
        doc.Leads keys value) ∧
    (∀ key f, '.' ∈ key.toList → Document.find? path (doc.alter key f) = doc.find? path) ∧
    ∀ found, doc.find? path = some found → (∀ inner, found ≠ .document inner) →
      doc.find? (path ++ "." ++ rest) = none := by
  refine ⟨fun value => ?_, fun hpoint => find?_of_not_mem hpoint doc, fun value => find?_eq_some_iff,
    fun key f hpoint => ?_, fun found hfound hflat => ?_⟩
  · rw [find?_append, Option.bind_eq_some_iff]
    simp only [Value.bind_document?_eq_some_iff]
  · exact follow?_alter hpoint f (fun key => Text.notMem_of_mem_pieces) doc
  · have hnone : (doc.find? path).bind Value.document? = none := by
      apply Option.eq_none_iff_forall_ne_some.2
      intro inner hinner
      have hdocument := Value.bind_document?_eq_some_iff.1 hinner
      exact hflat inner (Option.some.inj (hfound.symm.trans hdocument))
    rw [find?_append, hnone, Option.bind_none]

def playsOfNobody : Document :=
  [("stats", .document [("", .document [("plays", .int32 3)])]), ("stats..plays", .int32 9),
    ("year", .array [.document [("plays", .int32 5)]])]

theorem paths_compose_playsOfNobody :
    '.' ∉ "stats".toList ∧ playsOfNobody.find? "stats..plays" = some (.int32 3) ∧
      '.' ∈ "stats..plays".toList ∧
      Document.find? "stats..plays" (playsOfNobody.alter "stats..plays" fun _ => .null) =
        some (.int32 3) ∧
      playsOfNobody.find? "year.plays" = none := by
  have hstats : '.' ∉ "stats".toList := by decide
  have hpoint : '.' ∈ "stats..plays".toList := by decide
  obtain ⟨hcompose, hkey, -, -, -⟩ := paths_compose playsOfNobody "stats" ".plays"
  obtain ⟨-, -, -, hunseen, -⟩ := paths_compose playsOfNobody "stats..plays" ""
  obtain ⟨-, -, -, -, hflat⟩ := paths_compose playsOfNobody "year" "plays"
  have hfound : playsOfNobody.find? "stats..plays" = some (.int32 3) :=
    (hcompose _).2 ⟨_, (hkey hstats).trans rfl, rfl⟩
  exact ⟨hstats, hfound, hpoint, (hunseen _ _ hpoint).trans hfound,
    hflat _ rfl (by rintro inner ⟨⟩)⟩

end Document

end Songbook
