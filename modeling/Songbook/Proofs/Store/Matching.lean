import Songbook.Store.Condition

/-!
# What conditions ask

A comparison tries the items of a stored list, or else the stored value itself. Main statements:
each kind of condition as a statement about the items that are stored under its field.
-/

namespace Songbook

def Value.items : Value → List Value
  | array items => items
  | value => [value]

def itemsOf (found : Option Value) : List Value :=
  (found.map Value.items).getD []

namespace Condition

variable {collation : Collation} {doc : Document} {field : String} {value : Value}

theorem anyItem_iff {found : Option Value} {test : Value → Bool} :
    anyItem found test = true ↔ ∃ item ∈ itemsOf found, test item = true := by
  cases found with
  | none => simp [anyItem, itemsOf]
  | some stored => cases stored <;> simp [anyItem, itemsOf, Value.items]

/-- A value that is no list equals what a field holds if it equals an item of it; null equals a
missing field besides. -/
theorem fieldEquals_iff (harray : ∀ items, value ≠ .array items) :
    fieldEquals collation doc field value = true ↔
      (doc.find? field = none ∧ value.isNull = true) ∨
        ∃ item ∈ itemsOf (doc.find? field), item.equal collation value = true := by
  cases hfound : doc.find? field with
  | none => simp [fieldEquals, hfound, itemsOf]
  | some stored =>
    cases stored with
    | array items =>
      have hwhole : (Value.array items).equal collation value = false := by
        cases value <;> simp_all [Value.equal, Value.compare?, Value.integer?, Value.number?]
      simp [fieldEquals, hfound, itemsOf, Value.items, hwhole]
    | _ => simp [fieldEquals, hfound, itemsOf, Value.items]

theorem allHold_iff {conditions : List Condition} :
    allHold collation doc conditions = true ↔
      ∀ condition ∈ conditions, condition.holds collation doc = true := by
  induction conditions with
  | nil => simp [allHold]
  | cons condition rest ih => simp [allHold, ih]

theorem holds_all_iff {conditions : List Condition} :
    (all conditions).holds collation doc = true ↔
      ∀ condition ∈ conditions, condition.holds collation doc = true :=
  allHold_iff

theorem holds_eq_iff : (compare .eq field value).holds collation doc = true ↔
    fieldEquals collation doc field value = true :=
  Iff.rfl

theorem holds_ne_iff : (compare .ne field value).holds collation doc = true ↔
    fieldEquals collation doc field value = false := by
  change (!fieldEquals collation doc field value) = true ↔ _
  rw [Bool.not_eq_true']

def Ordered (r : Relation) : Prop := r ≠ .eq ∧ r ≠ .ne

theorem holds_ordered {r : Relation} (hr : Ordered r) :
    (compare r field value).holds collation doc = anyItem (doc.find? field) fun stored =>
      (stored.compare? collation value).any r.admits := by
  cases r with
  | eq => exact absurd rfl hr.1
  | ne => exact absurd rfl hr.2
  | _ => rfl

theorem holds_ordered_iff {r : Relation} (hr : Ordered r) :
    (compare r field value).holds collation doc = true ↔
      ∃ item ∈ itemsOf (doc.find? field),
        ∃ o, item.compare? collation value = some o ∧ r.admits o = true := by
  rw [holds_ordered hr, anyItem_iff]
  simp only [Option.any_eq_true]

theorem holds_oneOf_iff {values : List Value} :
    (oneOf field values).holds collation doc = true ↔
      ∃ value ∈ values, fieldEquals collation doc field value = true :=
  List.any_eq_true

theorem holds_noneOf_iff {values : List Value} :
    (noneOf field values).holds collation doc = true ↔
      ∀ value ∈ values, fieldEquals collation doc field value = false := by
  change (!values.any (fieldEquals collation doc field)) = true ↔ _
  simp

theorem holds_startsWith_iff {start : String} :
    (startsWith field start).holds collation doc = true ↔
      ∃ s, Value.string s ∈ itemsOf (doc.find? field) ∧
        (Text.lower start).toList <+: (Text.lower s).toList := by
  change anyItem (doc.find? field) (beginsWith start) = true ↔ _
  rw [anyItem_iff]
  constructor
  · rintro ⟨item, hitem, hstart⟩
    cases item with
    | string s => exact ⟨s, hitem, List.isPrefixOf_iff_prefix.1 hstart⟩
    | _ => simp [beginsWith] at hstart
  · rintro ⟨s, hitem, hstart⟩
    exact ⟨.string s, hitem, List.isPrefixOf_iff_prefix.2 hstart⟩

end Condition

end Songbook
