import Songbook.Plan
import Songbook.Proofs.Number.Reading
import Songbook.Proofs.Request.Written
import Songbook.Proofs.Store.Matching
import Songbook.Proofs.Value.Paths

/-!
# Filters on numbers

A clause on a field of numbers, from the key and the value of the request to the documents that it
selects. Main statement: no step between them loses the operator or the exact integer.
-/

namespace Songbook

def Relation.Between : Relation → Int → Int → Prop
  | eq, m, n => m = n
  | ne, m, n => m ≠ n
  | gt, m, n => n < m
  | ge, m, n => n ≤ m
  | lt, m, n => m < n
  | le, m, n => m ≤ n

/-- How a stored item stands to an integer: exactly if it is an integer of either width, as doubles
do if it is a double. Nothing else stands in a relation to a number. -/
def Value.Stands (r : Relation) (n : Int64) : Value → Prop
  | int32 m => r.Between m.toInt n.toInt
  | int64 m => r.Between m.toInt n.toInt
  | double d => (d.compare? (Double.ofInt n.toInt)).any r.admits = true
  | _ => False

instance (r : Relation) (m n : Int) : Decidable (r.Between m n) := by
  cases r <;> unfold Relation.Between <;> infer_instance

instance (r : Relation) (n : Int64) (value : Value) : Decidable (value.Stands r n) := by
  cases value <;> unfold Value.Stands <;> infer_instance

namespace Document

/-- Some item under the field stands in the relation to the number; for inequality, no item equals
it. -/
def Answers (field : String) (r : Relation) (n : Int64) (doc : Document) : Prop :=
  match r with
  | .ne => ∀ item ∈ itemsOf (doc.get? field), ¬ item.Stands .eq n
  | r => ∃ item ∈ itemsOf (doc.get? field), item.Stands r n

def AnswersOneOf (field : String) (ns : List Int64) (doc : Document) : Prop :=
  ∃ item ∈ itemsOf (doc.get? field), ∃ n ∈ ns, item.Stands .eq n

instance (field : String) (r : Relation) (n : Int64) (doc : Document) :
    Decidable (doc.Answers field r n) := by
  cases r <;> unfold Answers <;> infer_instance

instance (field : String) (ns : List Int64) (doc : Document) :
    Decidable (doc.AnswersOneOf field ns) := by
  unfold AnswersOneOf
  infer_instance

end Document

def Descriptor.conditionOf (types : FieldTypes) (pairs : List (String × String)) :
    Except RequestError (Option Condition) := do
  let descriptor ← ofParams types (Params.ofPairs pairs)
  Filter.condition descriptor.filter

theorem Relation.admits_compare (r : Relation) (m n : Int) :
    r.admits (compare m n) = true ↔ r.Between m n := by
  rcases Int.lt_trichotomy m n with h | h | h
  · have hc : compare m n = .lt := Int.compare_eq_lt.2 h
    cases r <;> simp [admits, Between, hc] <;> omega
  · have hc : compare m n = .eq := Int.compare_eq_eq.2 h
    cases r <;> simp [admits, Between, hc] <;> omega
  · have hc : compare m n = .gt := Int.compare_eq_gt.2 h
    cases r <;> simp [admits, Between, hc] <;> omega

namespace Value

theorem exists_compare?_iff (collation : Collation) (r : Relation) (n : Int64) (item : Value) :
    (∃ o, item.compare? collation (.int64 n) = some o ∧ r.admits o = true) ↔ item.Stands r n := by
  cases item with
  | int32 m => simp [compare?, integer?, Stands, r.admits_compare]
  | int64 m => simp [compare?, integer?, Stands, r.admits_compare]
  | double d => simp [compare?, integer?, number?, Stands, Option.any_eq_true]
  | _ => simp [compare?, integer?, number?, Stands]

theorem equal_int64_iff (collation : Collation) (n : Int64) (item : Value) :
    item.equal collation (.int64 n) = true ↔ item.Stands .eq n := by
  have hcompare : item.equal collation (.int64 n) =
      (item.compare? collation (.int64 n) == some .eq) := by
    cases item <;> rfl
  rw [hcompare, beq_iff_eq, ← exists_compare?_iff collation]
  constructor
  · intro h
    exact ⟨.eq, h, rfl⟩
  · rintro ⟨o, ho, hadmits⟩
    rw [ho]
    exact congrArg some (by simpa [Relation.admits] using hadmits)

end Value

namespace Condition

variable {collation : Collation} {doc : Document} {field : String}

theorem fieldEquals_int64_iff (hpoint : '.' ∉ field.toList) (n : Int64) :
    fieldEquals collation doc field (.int64 n) = true ↔
      ∃ item ∈ itemsOf (doc.get? field), item.Stands .eq n := by
  rw [fieldEquals_iff (by intro items h; cases h), Document.find?_of_not_mem hpoint]
  simp [Value.isNull, Value.equal_int64_iff]

/-- Comparing a field with an integer asks for the relation. -/
theorem holds_compare_int64_iff (hpoint : '.' ∉ field.toList) (r : Relation) (n : Int64) :
    (compare r field (.int64 n)).holds collation doc = true ↔ doc.Answers field r n := by
  have hordered : Ordered r → ((compare r field (.int64 n)).holds collation doc = true ↔
      ∃ item ∈ itemsOf (doc.get? field), item.Stands r n) := by
    intro hr
    rw [holds_ordered_iff hr, Document.find?_of_not_mem hpoint]
    simp only [Value.exists_compare?_iff]
  cases r with
  | eq => exact holds_eq_iff.trans (fieldEquals_int64_iff hpoint n)
  | ne =>
    rw [holds_ne_iff, ← Bool.not_eq_true, fieldEquals_int64_iff hpoint, Document.Answers]
    simp
  | gt => exact hordered ⟨by decide, by decide⟩
  | ge => exact hordered ⟨by decide, by decide⟩
  | lt => exact hordered ⟨by decide, by decide⟩
  | le => exact hordered ⟨by decide, by decide⟩

theorem holds_oneOf_int64_iff (hpoint : '.' ∉ field.toList) (ns : List Int64) :
    (oneOf field (ns.map .int64)).holds collation doc = true ↔ doc.AnswersOneOf field ns := by
  rw [holds_oneOf_iff]
  constructor
  · rintro ⟨value, hvalue, hequal⟩
    obtain ⟨n, hn, rfl⟩ := List.mem_map.1 hvalue
    obtain ⟨item, hitem, hstands⟩ := (fieldEquals_int64_iff hpoint n).1 hequal
    exact ⟨item, hitem, n, hn, hstands⟩
  · rintro ⟨item, hitem, n, hn, hstands⟩
    exact ⟨.int64 n, List.mem_map_of_mem hn,
      (fieldEquals_int64_iff hpoint n).2 ⟨item, hitem, hstands⟩⟩

theorem holds_noneOf_int64_iff (hpoint : '.' ∉ field.toList) (ns : List Int64) :
    (noneOf field (ns.map .int64)).holds collation doc = true ↔
      ¬ doc.AnswersOneOf field ns := by
  have hone : (oneOf field (ns.map .int64)).holds collation doc = true ↔
      doc.AnswersOneOf field ns := holds_oneOf_int64_iff hpoint ns
  rw [← hone, holds_oneOf_iff, holds_noneOf_iff]
  simp

end Condition

def IsNumeralText (text : String) : Prop :=
  text ≠ "" ∧ ∀ c ∈ text.toList, '*'.toNat < c.toNat ∧ c.toNat < ':'.toNat

theorem isNumeralText_of_spells {text : String} {n : Int64} (h : Number.Spells text n) :
    IsNumeralText text := by
  obtain ⟨hne, hcode⟩ := Number.code_of_readInt? h
  refine ⟨?_, fun c hc => (hcode c hc).2⟩
  rintro rfl
  exact hne rfl

theorem isNumeralText_intercalate {texts : List String} (hne : texts ≠ [])
    (h : ∀ text ∈ texts, IsNumeralText text) : IsNumeralText (",".intercalate texts) := by
  induction texts with
  | nil => exact absurd rfl hne
  | cons text rest ih =>
    have htext := h text List.mem_cons_self
    cases rest with
    | nil => rwa [String.intercalate_singleton]
    | cons next rest =>
      have hrest := ih (List.cons_ne_nil _ _) fun t ht => h t (List.mem_cons_of_mem _ ht)
      rw [String.intercalate_cons_cons]
      refine ⟨by simp, fun c hc => ?_⟩
      simp only [String.toList_append, List.mem_append] at hc
      rcases hc with (hc | hc) | hc
      · exact htext.2 c hc
      · obtain rfl : c = ',' := by simpa using hc
        decide
      · exact hrest.2 c hc

namespace IsNumeralText

variable {text : String}

theorem isBlank_eq_false (h : IsNumeralText text) {c : Char} (hc : c ∈ text.toList) :
    Text.isBlank c = false := by
  obtain ⟨hlow, hhigh⟩ := h.2 c hc
  exact Text.isBlank_eq_false (Nat.lt_trans (by decide) hlow) (Nat.lt_trans hhigh (by decide))

theorem trim_eq_self (h : IsNumeralText text) : Text.trim text = text :=
  Text.trim_eq_self_iff.2 (Text.trimChars_eq_self
    (fun _ hc => h.isBlank_eq_false (List.mem_of_head? hc))
    (fun _ hc => h.isBlank_eq_false (List.mem_of_getLast? hc)))

/-- A clause with such a value arrives with nothing but its own predicate in the filter. -/
theorem conditionOf_wire {types : FieldTypes} {field : String} (hf : IsFieldName field)
    (hkey : field ∉ Descriptor.keywords) (h : IsNumeralText text) (r : Relation) :
    Descriptor.conditionOf types [r.wire field text] =
      (Clause.predicate types field ⟨field, .relation r, text⟩).condition field >>=
        fun condition => .ok (some condition) := by
  have hsmall : ∀ c ∈ text.toList, Text.IsSmall c := fun c hc =>
    Text.isSmall_of_lt_capitals (Nat.lt_trans (h.2 c hc).2 (by decide))
  have hhead : text.toList.head? ≠ some '=' := fun hc =>
    absurd (h.2 _ (List.mem_of_head? hc)).2 (by decide)
  have hline : '\n' ∉ text.toList := fun hc => absurd (h.2 _ hc).1 (by decide)
  have hkept := r.kept_eq_self hsmall fun c hc => h.isBlank_eq_false (List.mem_of_getLast? hc)
  rw [Descriptor.conditionOf, hf.ofPairs_wire_kept, hkept,
    Descriptor.ofParams_single types (Descriptor.wire_notMem_keywords hkey text r),
    Filter.addParam_wire hf r h.1 hhead hline]
  change Filter.condition (some (Filter.empty.insert field _)) = _
  simp only [Filter.condition, Filter.insert, Filter.empty, Filter.place, List.mapM_cons,
    List.mapM_nil]
  cases (Clause.predicate types field ⟨field, .relation r, text⟩).condition field <;> rfl

end IsNumeralText

/-- The text of an integer is read as that integer, through no double. -/
theorem FieldType.read_number {text : String} {n : Int64} (h : Number.Spells text n) :
    read (some .number) (Text.trim text) = .int64 n := by
  have htext := isNumeralText_of_spells h
  have hne : text.toList ≠ [] := (Number.code_of_readInt? h).1
  have htrim := Text.trim_eq_self_iff.1 htext.trim_eq_self
  have hempty : text.toList.isEmpty = false := by simpa using hne
  have hread : (Number.readInt? text.toList).bind Number.int64? = some n := by
    rw [show Number.readInt? text.toList = some n.toInt from h, Option.bind_some,
      Number.int64?_toInt]
  rw [htext.trim_eq_self]
  simp only [read, readNumber, htrim, hempty, Bool.false_eq_true, if_false, hread]

namespace Clause

variable {types : FieldTypes} {field : String}

theorem comma_not_mem_of_spells {text : String} {n : Int64} (h : Number.Spells text n) :
    ',' ∉ text.toList :=
  fun hc => ((Number.code_of_readInt? h).2 _ hc).1 rfl

theorem predicate_number (htype : types.get? field = some .number) (r : Relation) {text : String}
    {n : Int64} (h : Number.Spells text n) :
    predicate types field ⟨field, .relation r, text⟩ = .compare (.relation r) (.int64 n) := by
  rw [predicate_of_bare types field (comma_not_mem_of_spells h), htype, FieldType.read_number h]

theorem bare_numerals {numerals : List (String × Int64)}
    (h : ∀ e ∈ numerals, Number.Spells e.1 e.2) :
    ∀ part ∈ numerals.map Prod.fst, ',' ∉ part.toList := by
  intro part hpart
  obtain ⟨e, he, rfl⟩ := List.mem_map.1 hpart
  exact comma_not_mem_of_spells (h e he)

theorem read_numerals {numerals : List (String × Int64)}
    (h : ∀ e ∈ numerals, Number.Spells e.1 e.2) :
    (numerals.map Prod.fst).map (fun part => FieldType.read (some .number) (Text.trim part)) =
      (numerals.map Prod.snd).map .int64 := by
  rw [List.map_map, List.map_map]
  refine List.map_congr_left fun e he => ?_
  rw [Function.comp_apply, Function.comp_apply, FieldType.read_number (h e he)]

section Lists

variable (htype : types.get? field = some .number) {numerals : List (String × Int64)}
  (htwo : 2 ≤ numerals.length) (h : ∀ e ∈ numerals, Number.Spells e.1 e.2)

include htype htwo h

theorem predicate_numbers_eq :
    predicate types field ⟨field, .relation .eq, ",".intercalate (numerals.map Prod.fst)⟩ =
      .oneOf ((numerals.map Prod.snd).map .int64) := by
  obtain ⟨heq, -⟩ := predicate_of_parts types field (by simpa using htwo) (bare_numerals h)
  rw [heq, htype, read_numerals h]

theorem predicate_numbers_ne :
    predicate types field ⟨field, .relation .ne, ",".intercalate (numerals.map Prod.fst)⟩ =
      .noneOf ((numerals.map Prod.snd).map .int64) := by
  obtain ⟨-, hne⟩ := predicate_of_parts types field (by simpa using htwo) (bare_numerals h)
  rw [hne, htype, read_numerals h]

end Lists

end Clause

namespace Descriptor

variable {types : FieldTypes} {field : String}

theorem conditionOf_number (hf : IsFieldName field) (hkey : field ∉ keywords)
    (htype : types.get? field = some .number) (r : Relation) {text : String} {n : Int64}
    (h : Number.Spells text n) :
    conditionOf types [r.wire field text] = .ok (some (.compare r field (.int64 n))) := by
  rw [(isNumeralText_of_spells h).conditionOf_wire hf hkey, Clause.predicate_number htype r h]
  cases r <;> rfl

theorem isNumeralText_numerals {numerals : List (String × Int64)} (hne : numerals ≠ [])
    (h : ∀ e ∈ numerals, Number.Spells e.1 e.2) :
    IsNumeralText (",".intercalate (numerals.map Prod.fst)) := by
  refine isNumeralText_intercalate (by simpa using hne) fun text htext => ?_
  obtain ⟨e, he, rfl⟩ := List.mem_map.1 htext
  exact isNumeralText_of_spells (h e he)

/-- A clause on a field of numbers selects exactly the documents whose integers under the field
stand in its relation to the integer that it spells; a list of integers stands for any of them. -/
theorem number_clause_exact (hf : IsFieldName field) (hpoint : '.' ∉ field.toList)
    (hkey : field ∉ keywords) (htype : types.get? field = some .number) :
    (∀ (r : Relation) (n : Int64), ∃ condition,
      conditionOf types [r.wire field (Number.decimal n)] = .ok (some condition) ∧
      ∀ collation doc, condition.holds collation doc = true ↔ doc.Answers field r n) ∧
    ∀ numerals : List (String × Int64), 2 ≤ numerals.length →
      (∀ e ∈ numerals, Number.Spells e.1 e.2) →
      (∃ condition,
        conditionOf types [Relation.eq.wire field (",".intercalate (numerals.map Prod.fst))] =
          .ok (some condition) ∧
        ∀ collation doc, condition.holds collation doc = true ↔
          doc.AnswersOneOf field (numerals.map Prod.snd)) ∧
      ∃ condition,
        conditionOf types [Relation.ne.wire field (",".intercalate (numerals.map Prod.fst))] =
          .ok (some condition) ∧
        ∀ collation doc, condition.holds collation doc = true ↔
          ¬ doc.AnswersOneOf field (numerals.map Prod.snd) := by
  refine ⟨fun r n => ?_, fun numerals htwo h => ?_⟩
  · exact ⟨_, conditionOf_number hf hkey htype r (Number.spells_decimal n),
      fun collation doc => Condition.holds_compare_int64_iff hpoint r n⟩
  · have hne : numerals ≠ [] := by
      rintro rfl
      simp at htwo
    have htext := isNumeralText_numerals hne h
    refine ⟨⟨_, ?_, fun collation doc => Condition.holds_oneOf_int64_iff hpoint _⟩,
      ⟨_, ?_, fun collation doc => Condition.holds_noneOf_int64_iff hpoint _⟩⟩
    · rw [htext.conditionOf_wire hf hkey, Clause.predicate_numbers_eq htype htwo h]
      rfl
    · rw [htext.conditionOf_wire hf hkey, Clause.predicate_numbers_ne htype htwo h]
      rfl

theorem number_clause_years : IsFieldName "year" ∧ ∃ condition,
    conditionOf [("year", .number)] [("year>", "2008")] = .ok (some condition) ∧
      condition.holds .simple [("year", .array [.int32 1999, .int64 2008])] = true ∧
      condition.holds .simple [("year", .int32 2007)] = false ∧
      condition.holds .simple [("year", .string "2009")] = false := by
  have hall : "year".toList.all (fun c => !Clause.isOperatorChar c) = true := by decide
  have hbare : ∀ c ∈ "year".toList, Clause.isOperatorChar c = false := by
    intro c hc
    exact (Bool.not_eq_true' _).mp (List.all_eq_true.1 hall c hc)
  have hyear : IsFieldName "year" := ⟨by decide, by decide, by decide, hbare⟩
  have htype : Entries.get? "year" [("year", FieldType.number)] = some .number := rfl
  have htext : Number.decimal 2008 = "2008" := by decide +kernel
  obtain ⟨condition, hcondition, hholds⟩ :=
    (number_clause_exact hyear (by decide) (by decide) htype).1 .ge 2008
  rw [htext] at hcondition
  refine ⟨hyear, condition, hcondition, (hholds _ _).2 (by decide), ?_, ?_⟩
  · exact Bool.eq_false_iff.2 fun h => absurd ((hholds _ _).1 h) (by decide)
  · exact Bool.eq_false_iff.2 fun h => absurd ((hholds _ _).1 h) (by decide)

end Descriptor

end Songbook
