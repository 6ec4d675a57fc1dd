import Songbook.Plan
import Songbook.Proofs.Number.Reading
import Songbook.Proofs.Store.Comparisons
import Songbook.Proofs.Value.Numbers

/-!
# Texts that are no number

On a field of numbers such a text is read as the double that is not a number, which compares with
nothing. Main statement: it selects no document, is unequal to whatever a field holds, and changes
nothing in a list.
-/

namespace Songbook

/-- What is left of the text between blanks is something, and neither an integer nor a double. -/
structure IsNoNumber (text : String) : Prop where
  ne_blank : Text.trim text ≠ ""
  no_integer : ∀ n, ¬ Number.Spells (Text.trim text) n
  no_double : Number.readDouble? (Text.trim text).toList = none

theorem FieldType.read_of_isNoNumber {text : String} (h : IsNoNumber text) :
    read (some .number) (Text.trim text) = .double .nan := by
  have htrim : Text.trimChars (Text.trim text).toList = (Text.trim text).toList := by
    rw [← Text.trim_eq_self_iff, Text.trim_trim]
  have hempty : (Text.trim text).toList.isEmpty = false := by simpa using h.ne_blank
  have hnone : (Number.readInt? (Text.trim text).toList).bind Number.int64? = none := by
    apply Option.eq_none_iff_forall_ne_some.2
    intro n hn
    obtain ⟨i, hi, hfits⟩ := Option.bind_eq_some_iff.1 hn
    obtain rfl := Number.int64?_eq_some_iff.1 hfits
    exact h.no_integer n hi
  simp only [read, readNumber, htrim, hempty, Bool.false_eq_true, if_false, hnone, h.no_double,
    Option.getD_none]

theorem startOf?_read_number (field raw : String) :
    startOf? field (FieldType.read (some .number) raw) = none := by
  obtain ⟨n, hn⟩ | ⟨d, hd⟩ := FieldType.readNumber_cases raw
  · rw [FieldType.read, hn]
    rfl
  · rw [FieldType.read, hd]
    rfl

/-- A relation to a value that asks for no beginnings is translated as it is. -/
theorem Predicate.condition_compare {field : String} {value : Value}
    (h : startOf? field value = none) (r : Relation) :
    (Predicate.compare (.relation r) value).condition field = .ok (.compare r field value) := by
  cases r with
  | eq => simp only [Predicate.condition, h]
  | _ => rfl

namespace Condition

variable {collation : Collation} {doc : Document} {field : String}

theorem compare?_nan (collation : Collation) (item : Value) :
    item.compare? collation (.double .nan) = none := by
  apply Option.eq_none_iff_forall_ne_some.2
  intro o ho
  exact (Value.exists_compare?_iff_comparable.1 ⟨o, ho⟩).right rfl

/-- Nothing equals what is not a number, not even the same in the document. -/
theorem fieldEquals_nan : fieldEquals collation doc field (.double .nan) = false := by
  rw [← Bool.not_eq_true, ← holds_eq_iff, holds_compare_iff rfl (by decide)]
  simp [compare?_nan]

theorem holds_compare_nan_iff {r : Relation} :
    (compare r field (.double .nan)).holds collation doc = true ↔ r = .ne := by
  by_cases hr : r = .ne
  · subst hr
    simp [holds_ne_iff, fieldEquals_nan]
  · rw [holds_compare_iff rfl hr]
    simp [compare?_nan, hr]

end Condition

namespace Clause

variable {types : FieldTypes} {field : String}

def condition (types : FieldTypes) (clause : Clause) : Except RequestError Condition :=
  (clause.predicate types clause.field).condition clause.field

theorem condition_of_bare (htype : types.get? field = some .number) {text : String}
    (hbare : ',' ∉ text.toList) (r : Relation) :
    condition types ⟨field, .relation r, text⟩ =
      .ok (.compare r field (FieldType.read (some .number) (Text.trim text))) := by
  rw [condition, predicate_of_bare types field hbare, htype,
    Predicate.condition_compare (startOf?_read_number _ _)]

def EqualsPart (collation : Collation) (doc : Document) (field : String) (parts : List String) :
    Prop :=
  ∃ part ∈ parts, Condition.fieldEquals collation doc field
    (FieldType.read (some .number) (Text.trim part)) = true

/-- A list of one part or more asks for equality with some part, or with none for inequality. -/
theorem exists_condition_of_parts (htype : types.get? field = some .number) {parts : List String}
    (hne : parts ≠ []) (hbare : ∀ part ∈ parts, ',' ∉ part.toList) {r : Relation}
    (hr : r = .eq ∨ r = .ne) :
    ∃ condition, Clause.condition types ⟨field, .relation r, ",".intercalate parts⟩ =
        .ok condition ∧
      ∀ collation doc, condition.holds collation doc = true ↔
        (EqualsPart collation doc field parts ↔ r = .eq) := by
  match parts with
  | [part] =>
    have hpart := hbare part List.mem_cons_self
    rw [String.intercalate_singleton]
    refine ⟨_, condition_of_bare htype hpart r, fun collation doc => ?_⟩
    obtain rfl | rfl := hr
    · simp [Condition.holds_eq_iff, EqualsPart]
    · simp [Condition.holds_ne_iff, EqualsPart]
  | first :: second :: rest =>
    obtain ⟨heq, hne⟩ := predicate_of_parts types field (by simp) hbare
    obtain rfl | rfl := hr
    · refine ⟨_, by rw [condition, heq, htype]; rfl, fun collation doc => ?_⟩
      rw [Condition.holds_oneOf_iff]
      simp only [EqualsPart, iff_true, List.mem_map, exists_exists_and_eq_and]
    · refine ⟨_, by rw [condition, hne, htype]; rfl, fun collation doc => ?_⟩
      rw [Condition.holds_noneOf_iff]
      simp only [EqualsPart, reduceCtorEq, iff_false, not_exists, not_and, List.forall_mem_map,
        Bool.not_eq_true]

theorem equalsPart_insert {text : String} (h : IsNoNumber text) {collation : Collation}
    {doc : Document} (before after : List String) :
    EqualsPart collation doc field (before ++ text :: after) ↔
      EqualsPart collation doc field (before ++ after) := by
  have hnone : Condition.fieldEquals collation doc field
      (FieldType.read (some .number) (Text.trim text)) = false := by
    rw [FieldType.read_of_isNoNumber h, Condition.fieldEquals_nan]
  simp [EqualsPart, or_and_right, exists_or, hnone]

/-- Of the documents, a relation to a text that is no number selects none, or all for inequality.
Put anywhere into a list it has no part in what the list selects. -/
theorem no_number_selects_nothing (htype : types.get? field = some .number) {text : String}
    (h : IsNoNumber text) (hbare : ',' ∉ text.toList) :
    (∀ r, ∃ condition, Clause.condition types ⟨field, .relation r, text⟩ = .ok condition ∧
      ∀ collation doc, condition.holds collation doc = true ↔ r = .ne) ∧
    ∀ before after : List String, before ++ after ≠ [] →
      (∀ part ∈ before ++ after, ',' ∉ part.toList) → ∀ r, r = .eq ∨ r = .ne →
        ∃ longer shorter,
          Clause.condition types
              ⟨field, .relation r, ",".intercalate (before ++ text :: after)⟩ = .ok longer ∧
          Clause.condition types ⟨field, .relation r, ",".intercalate (before ++ after)⟩ =
            .ok shorter ∧
          ∀ collation doc, longer.holds collation doc = shorter.holds collation doc := by
  constructor
  · intro r
    refine ⟨_, condition_of_bare htype hbare r, fun collation doc => ?_⟩
    rw [FieldType.read_of_isNoNumber h]
    exact Condition.holds_compare_nan_iff
  · intro before after hne hparts r hr
    have hall : ∀ part ∈ before ++ text :: after, ',' ∉ part.toList := by
      intro part hpart
      obtain rfl | hpart := List.mem_cons.1 (List.perm_middle.subset hpart)
      · exact hbare
      · exact hparts part hpart
    obtain ⟨longer, hlonger, hlongerHolds⟩ := exists_condition_of_parts htype (by simp) hall hr
    obtain ⟨shorter, hshorter, hshorterHolds⟩ := exists_condition_of_parts htype hne hparts hr
    refine ⟨longer, shorter, hlonger, hshorter, fun collation doc => Bool.eq_iff_iff.2 ?_⟩
    rw [hlongerHolds, hshorterHolds, equalsPart_insert h]

/-- The field holds what is no number, and the text itself. -/
theorem no_number_selects_nothing_eighty :
    let types := [("year", FieldType.number)]
    let doc : Document := [("year", .array [.double .nan, .string "19eighty9"])]
    IsNoNumber " 19eighty9" ∧
      (∃ asked, condition types ⟨"year", .relation .eq, " 19eighty9"⟩ = .ok asked ∧
        asked.holds .simple doc = false) ∧
      ∃ longer shorter,
        condition types ⟨"year", .relation .ne, "1989, 19eighty9,2012"⟩ = .ok longer ∧
        condition types ⟨"year", .relation .ne, "1989,2012"⟩ = .ok shorter ∧
        longer.holds .simple doc = shorter.holds .simple doc := by
  intro types doc
  have htext : IsNoNumber " 19eighty9" := by
    refine ⟨by decide, fun n hn => ?_, by decide +kernel⟩
    have hnone : Number.readInt? (Text.trim " 19eighty9").toList = none := by decide +kernel
    rw [Number.Spells, hnone] at hn
    cases hn
  have htype : Entries.get? "year" types = some .number := rfl
  obtain ⟨hsingle, hlist⟩ := no_number_selects_nothing htype htext (by decide)
  obtain ⟨asked, hasked, hholds⟩ := hsingle .eq
  obtain ⟨longer, shorter, hlonger, hshorter, hsame⟩ :=
    hlist ["1989"] ["2012"] (by decide) (by decide) .ne (.inr rfl)
  refine ⟨htext, ⟨asked, hasked, ?_⟩, longer, shorter, hlonger, hshorter, hsame .simple doc⟩
  exact Bool.eq_false_iff.2 fun h => absurd ((hholds .simple doc).1 h) (by decide)

end Clause

end Songbook
