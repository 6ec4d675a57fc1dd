import Songbook.Proofs.Request.WellFormed
import Songbook.Proofs.Store.Matching
import Songbook.Proofs.Value.Order

/-!
# Comparisons with given values

A request gives texts, integers, doubles, truth values and dates, and with these equality is a
comparison like the others: an item under the field compares, and one order is admitted. Main
statement: so the relations of order agree with equality on every document, and a single stored
value stands in exactly one of them to a given one if both are on one scale.
-/

namespace Songbook

namespace Value

def isGiven : Value → Bool
  | string _ | int64 _ | double _ | bool _ | date _ => true
  | _ => false

/-- The brackets within which values are compared. A decimal of 128 bits, a symbol or a timestamp is
in none of them. -/
inductive Scale where
  | numbers
  | texts
  | truths
  | dates

def scale? : Value → Option Scale
  | int32 _ | int64 _ | double _ => some .numbers
  | string _ => some .texts
  | bool _ => some .truths
  | date _ => some .dates
  | _ => none

/-- Two values on one scale, neither of them the double that is not a number. -/
structure Comparable (a b : Value) : Prop where
  scaled : ∃ scale, a.scale? = some scale ∧ b.scale? = some scale
  left : a ≠ .double .nan
  right : b ≠ .double .nan

variable {collation : Collation} {a b : Value}

theorem exists_place_iff : (∃ p, a.place? = some p) ↔
    a.scale? = some .numbers ∧ a ≠ .double .nan := by
  cases a with
  | int32 n | int64 n =>
    exact ⟨fun _ => ⟨rfl, by rintro ⟨⟩⟩, fun _ => ⟨_, place?_of_integer? rfl⟩⟩
  | double d =>
    cases d with
    | nan => exact ⟨fun ⟨_, hp⟩ => (nomatch hp), fun h => absurd rfl h.2⟩
    | signed => exact ⟨fun _ => ⟨rfl, by rintro ⟨⟩⟩, fun _ => ⟨_, rfl⟩⟩
  | _ => exact ⟨fun ⟨_, hp⟩ => (nomatch hp), fun h => (nomatch h.1)⟩

theorem exists_compare?_iff_comparable :
    (∃ o, a.compare? collation b = some o) ↔ a.Comparable b := by
  constructor
  · rintro ⟨o, ho⟩
    cases compares_of_compare? ho with
    | texts => exact ⟨⟨.texts, rfl, rfl⟩, by rintro ⟨⟩, by rintro ⟨⟩⟩
    | truths => exact ⟨⟨.truths, rfl, rfl⟩, by rintro ⟨⟩, by rintro ⟨⟩⟩
    | dates => exact ⟨⟨.dates, rfl, rfl⟩, by rintro ⟨⟩, by rintro ⟨⟩⟩
    | numbers ha hb =>
      obtain ⟨hscale, hleft⟩ := exists_place_iff.1 ⟨_, ha⟩
      obtain ⟨hscale', hright⟩ := exists_place_iff.1 ⟨_, hb⟩
      exact ⟨⟨.numbers, hscale, hscale'⟩, hleft, hright⟩
  · rintro ⟨⟨scale, ha, hb⟩, hleft, hright⟩
    cases scale with
    | numbers =>
      obtain ⟨p, hp⟩ := exists_place_iff.2 ⟨ha, hleft⟩
      obtain ⟨q, hq⟩ := exists_place_iff.2 ⟨hb, hright⟩
      exact ⟨_, compare?_of_compares (.numbers hp hq rfl)⟩
    | texts | truths | dates =>
      cases a <;> cases ha
      cases b <;> cases hb
      exact ⟨_, rfl⟩

/-- Only null, lists and documents equal something that they do not compare with. -/
theorem equal_of_isGiven (h : b.isGiven = true) :
    a.equal collation b = (a.compare? collation b == some .eq) := by
  cases b <;> cases h <;> cases a <;> rfl

end Value

theorem FieldType.isGiven_read (fieldType : Option FieldType) (raw : String) :
    (read fieldType raw).isGiven = true := by
  unfold read
  split
  · obtain ⟨n, hn⟩ | ⟨d, hd⟩ := readNumber_cases raw
    · rw [hn]
      rfl
    · rw [hd]
      rfl
  · obtain ⟨millis, hmillis⟩ | hs := readDate_cases raw
    · rw [hmillis]
      rfl
    · rw [hs]
      rfl
  · rfl
  · rfl
  · rfl

theorem itemsOf_of_not_array {stored : Value} (h : ∀ items, stored ≠ .array items) :
    itemsOf (some stored) = [stored] := by
  cases stored with
  | array items => exact absurd rfl (h items)
  | _ => rfl

namespace Relation

def basic : List Relation := [lt, eq, gt]

def ofOrdering : Ordering → Relation
  | .lt => lt
  | .eq => eq
  | .gt => gt

theorem ofOrdering_mem_basic (o : Ordering) : ofOrdering o ∈ basic := by
  cases o <;> decide

theorem admits_iff_of_mem_basic {r : Relation} (hr : r ∈ basic) (o : Ordering) :
    r.admits o = true ↔ ofOrdering o = r := by
  have hall : ∀ r ∈ basic, (r.admits o = true ↔ ofOrdering o = r) := by
    cases o <;> decide
  exact hall r hr

theorem ne_of_mem_basic : ∀ r ∈ basic, r ≠ ne := by
  decide

end Relation

namespace Condition

variable {collation : Collation} {doc : Document} {field : String} {value stored : Value}
  {r s t : Relation}

/-- Every relation but inequality asks for an item that compares in an admitted order. -/
theorem holds_compare_iff (hvalue : value.isGiven = true) (hr : r ≠ .ne) :
    (compare r field value).holds collation doc = true ↔
      ∃ item ∈ itemsOf (doc.find? field),
        ∃ o, item.compare? collation value = some o ∧ r.admits o = true := by
  by_cases heq : r = .eq
  · subst heq
    have harray : ∀ items, value ≠ .array items := by
      rintro items rfl
      cases hvalue
    have hnull : value.isNull = false := by
      cases value <;> cases hvalue <;> rfl
    rw [holds_eq_iff, fieldEquals_iff harray, hnull]
    simp [Value.equal_of_isGiven hvalue, Relation.admits]
  · exact holds_ordered_iff ⟨heq, hr⟩

theorem holds_either (hvalue : value.isGiven = true) (hr : r ≠ .ne) (hs : s ≠ .ne) (ht : t ≠ .ne)
    (h : ∀ o, r.admits o = (s.admits o || t.admits o)) :
    (compare r field value).holds collation doc = true ↔
      (compare s field value).holds collation doc = true ∨
        (compare t field value).holds collation doc = true := by
  rw [holds_compare_iff hvalue hr, holds_compare_iff hvalue hs, holds_compare_iff hvalue ht]
  simp only [h, Bool.or_eq_true, and_or_left, exists_or]

/-- A single value stands in the basic relation of its order to the given one, if they compare. -/
theorem holds_basic_iff (hvalue : value.isGiven = true) (hr : r ∈ Relation.basic)
    (hfound : doc.find? field = some stored) (hsingle : ∀ items, stored ≠ .array items) :
    (compare r field value).holds collation doc = true ↔
      ∃ o, stored.compare? collation value = some o ∧ Relation.ofOrdering o = r := by
  rw [holds_compare_iff hvalue (Relation.ne_of_mem_basic r hr), hfound,
    itemsOf_of_not_array hsingle]
  simp [Relation.admits_iff_of_mem_basic hr]

/-- Whatever a request gives, and whatever the field holds: at least means greater or equal, at most
means less or equal, and the negations are negations. A single stored value stands in at most one of
the three basic relations, and in one of them exactly if the two are comparable. -/
theorem comparisons_agree (collation : Collation) (doc : Document) (field : String) :
    (∀ fieldType raw, (FieldType.read fieldType raw).isGiven = true) ∧
    ∀ value : Value, value.isGiven = true →
      let holds := fun r => (compare r field value).holds collation doc = true
      (holds .ge ↔ holds .gt ∨ holds .eq) ∧ (holds .le ↔ holds .lt ∨ holds .eq) ∧
      (holds .ne ↔ ¬ holds .eq) ∧
      (∀ stored, doc.find? field = some stored → (∀ items, stored ≠ .array items) →
        (∀ r ∈ Relation.basic, ∀ s ∈ Relation.basic, holds r → holds s → r = s) ∧
          ((∃ r ∈ Relation.basic, holds r) ↔ stored.Comparable value)) ∧
      ∀ values : List Value,
        ((oneOf field values).holds collation doc = true ↔
          ∃ one ∈ values, (compare .eq field one).holds collation doc = true) ∧
        ((noneOf field values).holds collation doc = true ↔
          ∀ one ∈ values, ¬ (compare .eq field one).holds collation doc = true) := by
  refine ⟨FieldType.isGiven_read, fun value hvalue => ?_⟩
  intro holds
  refine ⟨?_, ?_, ?_, fun stored hfound hsingle => ?_, fun values => ⟨holds_oneOf_iff, ?_⟩⟩
  · exact holds_either hvalue (by decide) (by decide) (by decide) (by intro o; cases o <;> rfl)
  · exact holds_either hvalue (by decide) (by decide) (by decide) (by intro o; cases o <;> rfl)
  · exact holds_ne_iff.trans (Bool.not_eq_true _).to_iff.symm
  · have hbasic : ∀ r ∈ Relation.basic, (holds r ↔
        ∃ o, stored.compare? collation value = some o ∧ Relation.ofOrdering o = r) :=
      fun r hr => holds_basic_iff hvalue hr hfound hsingle
    constructor
    · intro r hr s hs hholds hholds'
      obtain ⟨o, ho, rfl⟩ := (hbasic r hr).1 hholds
      obtain ⟨o', ho', rfl⟩ := (hbasic s hs).1 hholds'
      rw [Option.some.inj (ho.symm.trans ho')]
    · have hcomparable : (∃ o, stored.compare? collation value = some o) ↔
          stored.Comparable value := Value.exists_compare?_iff_comparable
      rw [← hcomparable]
      constructor
      · rintro ⟨r, hr, hholds⟩
        obtain ⟨o, ho, -⟩ := (hbasic r hr).1 hholds
        exact ⟨o, ho⟩
      · rintro ⟨o, ho⟩
        have hr := Relation.ofOrdering_mem_basic o
        exact ⟨_, hr, (hbasic _ hr).2 ⟨o, ho, rfl⟩⟩
  · rw [holds_noneOf_iff]
    simp only [holds_eq_iff, Bool.not_eq_true]

/-- A list may hold greater and smaller items and none that is equal; a single value may not. -/
theorem comparisons_agree_2008 :
    let doc : Document := [("year", .array [.null, .array [.int64 2008], .double .nan, .int32 2007,
      .string "2008", .int64 2009]), ("plays", .int32 5)]
    let holds := fun r field => (compare r field (.int64 2008)).holds .simple doc = true
    holds .ge "year" ∧ holds .le "year" ∧ holds .ne "year" ∧
      doc.find? "plays" = some (.int32 5) ∧ (Value.int32 5).Comparable (.int64 2008) ∧
      ∃ r ∈ Relation.basic, holds r "plays" := by
  intro doc holds
  have hgiven : (Value.int64 2008).isGiven = true := rfl
  have hgreater : holds .gt "year" := by decide
  have hless : holds .lt "year" := by decide
  have hunequal : ¬ holds .eq "year" := by decide
  obtain ⟨hge, hle, hne, -, -⟩ := (comparisons_agree .simple doc "year").2 _ hgiven
  obtain ⟨-, -, -, hsingle, -⟩ := (comparisons_agree .simple doc "plays").2 _ hgiven
  have hfound : doc.find? "plays" = some (.int32 5) := by rfl
  have hcomparable : (Value.int32 5).Comparable (.int64 2008) :=
    ⟨⟨.numbers, rfl, rfl⟩, by rintro ⟨⟩, by rintro ⟨⟩⟩
  exact ⟨hge.2 (.inl hgreater), hle.2 (.inl hless), hne.2 hunequal, hfound, hcomparable,
    (hsingle _ hfound (by rintro items ⟨⟩)).2.2 hcomparable⟩

end Condition

end Songbook
