import Songbook.Plan
import Songbook.Proofs.Sequencing
import Songbook.Proofs.Store.Matching

/-!
# Filters as conditions

The meaning of a filter, stated of its predicates alone, and the condition that a plan makes of it.
Main statement: the condition selects the documents on which every predicate holds, and begins-with
tests come from nothing but a percent sign after a title.
-/

namespace Songbook

/-- The value asks for titles that begin with the text before the percent sign at its end. -/
def AsksStart (field : String) (value : Value) (start : String) : Prop :=
  field = "song" ∧ value = .string (start ++ "%")

def Document.Begins (doc : Document) (field start : String) : Prop :=
  ∃ s, Value.string s ∈ itemsOf (doc.find? field) ∧
    (Text.lower start).toList <+: (Text.lower s).toList

def Document.Compares (doc : Document) (collation : Collation) (field : String) (value : Value)
    (orders : List Ordering) : Prop :=
  ∃ item ∈ itemsOf (doc.find? field), ∃ o ∈ orders, item.compare? collation value = some o

open Condition in
/-- What a predicate asks of a document. A token that is no relation asks nothing that holds. -/
def Predicate.Holds (collation : Collation) (doc : Document) (field : String) : Predicate → Prop
  | oneOf values => ∃ value ∈ values, fieldEquals collation doc field value = true
  | noneOf values => ¬ ∃ value ∈ values, fieldEquals collation doc field value = true
  | compare (.relation .eq) value =>
    (∃ start, AsksStart field value start ∧ doc.Begins field start) ∨
      (¬ ∃ start, AsksStart field value start) ∧ fieldEquals collation doc field value = true
  | compare (.relation .ne) value => ¬ fieldEquals collation doc field value = true
  | compare (.relation .lt) value => doc.Compares collation field value [.lt]
  | compare (.relation .le) value => doc.Compares collation field value [.lt, .eq]
  | compare (.relation .gt) value => doc.Compares collation field value [.gt]
  | compare (.relation .ge) value => doc.Compares collation field value [.gt, .eq]
  | compare (.other _) _ => False

def Filter.HasUnknown (filter : Filter) (field token : String) : Prop :=
  ∃ value, (field, Predicate.compare (.other token) value) ∈ filter.entries

namespace Condition

mutual

def starts : Condition → List (String × String)
  | all conditions => startsOf conditions
  | startsWith field start => [(field, start)]
  | _ => []

def startsOf : List Condition → List (String × String)
  | [] => []
  | condition :: rest => starts condition ++ startsOf rest

end

theorem mem_startsOf {conditions : List Condition} {test : String × String} :
    test ∈ startsOf conditions ↔ ∃ condition ∈ conditions, test ∈ condition.starts := by
  induction conditions with
  | nil => simp [startsOf]
  | cons condition rest ih => simp [startsOf, ih]

theorem every_eq_none_iff {conditions : List Condition} :
    every conditions = none ↔ conditions = [] := by
  unfold every
  split <;> simp_all

theorem holds_every {conditions : List Condition} {condition : Condition}
    (h : every conditions = some condition) (collation : Collation) (doc : Document) :
    condition.holds collation doc = true ↔ ∀ c ∈ conditions, c.holds collation doc = true := by
  unfold every at h
  split at h
  · cases h
  · obtain rfl := Option.some.inj h
    simp
  · obtain rfl := Option.some.inj h
    exact holds_all_iff

theorem mem_starts_every {conditions : List Condition} {condition : Condition}
    (h : every conditions = some condition) {test : String × String} :
    test ∈ condition.starts ↔ ∃ c ∈ conditions, test ∈ c.starts := by
  unfold every at h
  split at h
  · cases h
  · obtain rfl := Option.some.inj h
    simp
  · obtain rfl := Option.some.inj h
    rw [starts, mem_startsOf]

theorem holds_ordered_compares {collation : Collation} {doc : Document} {field : String}
    {value : Value} {r : Relation} (hr : Ordered r) {orders : List Ordering}
    (horders : ∀ o, r.admits o = true ↔ o ∈ orders) :
    (compare r field value).holds collation doc = true ↔
      doc.Compares collation field value orders := by
  rw [holds_ordered_iff hr, Document.Compares]
  simp only [horders]
  constructor
  · rintro ⟨item, hitem, o, ho, hmem⟩
    exact ⟨item, hitem, o, hmem, ho⟩
  · rintro ⟨item, hitem, o, hmem, ho⟩
    exact ⟨item, hitem, o, ho, hmem⟩

end Condition

theorem startOf?_eq_some_iff {field start : String} {value : Value} :
    startOf? field value = some start ↔ AsksStart field value start := by
  constructor
  · intro h
    cases value with
    | string s =>
      rw [startOf?] at h
      split at h
      · next hs =>
        obtain rfl := Option.some.inj h
        obtain ⟨before, hbefore⟩ := List.getLast?_eq_some_iff.1 hs.2
        refine ⟨hs.1, congrArg Value.string (String.toList_inj.1 ?_)⟩
        rw [String.toList_append, String.toList_ofList, hbefore, List.dropLast_concat]
        rfl
      · cases h
    | _ => cases h
  · rintro ⟨rfl, rfl⟩
    have hlist : (start ++ "%").toList = start.toList ++ ['%'] := by
      rw [String.toList_append]
      rfl
    simp [startOf?, hlist]

namespace Predicate

variable {field : String} {p : Predicate}

theorem condition_eq_error_iff {e : RequestError} : p.condition field = .error e ↔
    ∃ token value, p = compare (.other token) value ∧ e = .unsupportedOperator field token := by
  constructor
  · intro h
    unfold condition at h
    split at h
    · cases h
    · cases h
    · exact ⟨_, _, rfl, (Except.error.inj h).symm⟩
    · split at h <;> cases h
    · cases h
  · rintro ⟨token, value, rfl, rfl⟩
    rfl

/-- The condition of a predicate holds where the predicate does. -/
theorem holds_condition {condition : Condition} (h : p.condition field = .ok condition)
    (collation : Collation) (doc : Document) :
    condition.holds collation doc = true ↔ p.Holds collation doc field := by
  cases p with
  | oneOf values =>
    obtain rfl := Except.ok.inj h
    exact Condition.holds_oneOf_iff
  | noneOf values =>
    obtain rfl := Except.ok.inj h
    rw [Condition.holds_noneOf_iff, Holds]
    simp
  | compare operator value =>
    cases operator with
    | other token => cases h
    | relation r =>
      cases r with
      | eq =>
        rw [Predicate.condition] at h
        rw [Holds]
        cases hs : startOf? field value with
        | none =>
          rw [hs] at h
          obtain rfl := Except.ok.inj h
          have hno : ¬ ∃ start, AsksStart field value start := by
            rintro ⟨start, hstart⟩
            rw [startOf?_eq_some_iff.2 hstart] at hs
            cases hs
          rw [Condition.holds_eq_iff]
          constructor
          · exact fun heq => .inr ⟨hno, heq⟩
          · rintro (⟨start, hstart, -⟩ | ⟨-, heq⟩)
            · exact absurd ⟨start, hstart⟩ hno
            · exact heq
        | some start =>
          rw [hs] at h
          obtain rfl := Except.ok.inj h
          have hasks := startOf?_eq_some_iff.1 hs
          rw [Condition.holds_startsWith_iff]
          constructor
          · exact fun hbegins => .inl ⟨start, hasks, hbegins⟩
          · rintro (⟨other, hother, hbegins⟩ | ⟨hno, -⟩)
            · obtain rfl : start = other := Option.some.inj
                (hs.symm.trans (startOf?_eq_some_iff.2 hother))
              exact hbegins
            · exact absurd ⟨start, hasks⟩ hno
      | ne =>
        obtain rfl := Except.ok.inj h
        rw [Condition.holds_ne_iff, Holds, Bool.not_eq_true]
      | gt =>
        obtain rfl := Except.ok.inj h
        exact Condition.holds_ordered_compares ⟨by decide, by decide⟩ (by decide)
      | ge =>
        obtain rfl := Except.ok.inj h
        exact Condition.holds_ordered_compares ⟨by decide, by decide⟩ (by decide)
      | lt =>
        obtain rfl := Except.ok.inj h
        exact Condition.holds_ordered_compares ⟨by decide, by decide⟩ (by decide)
      | le =>
        obtain rfl := Except.ok.inj h
        exact Condition.holds_ordered_compares ⟨by decide, by decide⟩ (by decide)

/-- A begins-with test comes from an equality that asks for it. -/
theorem mem_starts_condition {condition : Condition} (h : p.condition field = .ok condition)
    {test : String × String} : test ∈ condition.starts ↔
      test.1 = field ∧ ∃ value, p = compare (.relation .eq) value ∧
        AsksStart field value test.2 := by
  have hnone : condition.starts = [] →
      (¬ ∃ value start, p = compare (.relation .eq) value ∧ AsksStart field value start) →
      (test ∈ condition.starts ↔ test.1 = field ∧
        ∃ value, p = compare (.relation .eq) value ∧ AsksStart field value test.2) := by
    intro hempty hno
    rw [hempty]
    constructor
    · intro htest
      cases htest
    · rintro ⟨-, value, hp, hasks⟩
      exact absurd ⟨value, test.2, hp, hasks⟩ hno
  cases p with
  | oneOf values =>
    obtain rfl := Except.ok.inj h
    exact hnone rfl (by rintro ⟨_, _, hp, -⟩; cases hp)
  | noneOf values =>
    obtain rfl := Except.ok.inj h
    exact hnone rfl (by rintro ⟨_, _, hp, -⟩; cases hp)
  | compare operator value =>
    cases operator with
    | other token => cases h
    | relation r =>
      by_cases hr : r = .eq
      · subst hr
        rw [Predicate.condition] at h
        cases hs : startOf? field value with
        | none =>
          rw [hs] at h
          obtain rfl := Except.ok.inj h
          refine hnone rfl ?_
          rintro ⟨_, start, hp, hasks⟩
          cases hp
          rw [startOf?_eq_some_iff.2 hasks] at hs
          cases hs
        | some start =>
          rw [hs] at h
          obtain rfl := Except.ok.inj h
          rw [Condition.starts, List.mem_singleton]
          constructor
          · rintro rfl
            exact ⟨rfl, value, rfl, startOf?_eq_some_iff.1 hs⟩
          · rintro ⟨hfield, _, hp, hasks⟩
            cases hp
            rw [startOf?_eq_some_iff.2 hasks] at hs
            exact Prod.ext hfield (Option.some.inj hs)
      · have hcondition : condition = .compare r field value := by
          cases r with
          | eq => exact absurd rfl hr
          | _ => exact (Except.ok.inj h).symm
        subst hcondition
        refine hnone (by rw [Condition.starts]; all_goals simp) ?_
        rintro ⟨_, _, hp, -⟩
        cases hp
        exact hr rfl

end Predicate

namespace Filter

variable {filter : Filter}

theorem condition_some (filter : Filter) : condition (some filter) =
    (filter.entries.mapM fun entry => entry.2.condition entry.1) >>=
      fun conditions => .ok (Condition.every conditions) := rfl

/-- Translating stops at the least field that is compared by no relation. -/
theorem least_unknown_of_error {e : RequestError} (h : condition (some filter) = .error e) :
    ∃ field token, filter.HasUnknown field token ∧ e = .unsupportedOperator field token ∧
      ∀ other token', filter.HasUnknown other token' →
        other = field ∨ Ord.compare field other = .lt := by
  have hpass : filter.entries.mapM (fun entry => entry.2.condition entry.1) = .error e := by
    rw [condition_some] at h
    cases hm : filter.entries.mapM fun entry => entry.2.condition entry.1 with
    | ok conditions =>
      rw [hm] at h
      cases h
    | error e' =>
      rw [hm] at h
      exact congrArg Except.error (Except.error.inj h)
  obtain ⟨before, ⟨field, p⟩, after, hsplit, hbefore, hfault⟩ := Sequencing.exists_first_fault hpass
  obtain ⟨token, value, rfl, rfl⟩ := Predicate.condition_eq_error_iff.1 hfault
  refine ⟨field, token, ⟨value, by simp [hsplit]⟩, rfl, ?_⟩
  rintro other token' ⟨value', hmem⟩
  rw [hsplit, List.mem_append, List.mem_cons] at hmem
  rcases hmem with hmem | heq | hmem
  · -- what stands before the fault was translated
    obtain ⟨c, hc⟩ := hbefore _ hmem
    cases hc
  · exact .inl (congrArg Prod.fst heq)
  · have hsorted := filter.sorted
    rw [hsplit] at hsorted
    exact .inr ((List.pairwise_cons.1 (List.pairwise_append.1 hsorted).2.1).1 _ hmem)

theorem error_of_unknown {field token : String} (h : filter.HasUnknown field token) :
    ∃ e, condition (some filter) = .error e := by
  obtain ⟨value, hmem⟩ := h
  obtain ⟨e, he⟩ := Sequencing.exists_error
    (f := fun entry : String × Predicate => entry.2.condition entry.1) hmem
    (Predicate.condition_eq_error_iff.2 ⟨token, value, rfl, rfl⟩)
  exact ⟨e, by rw [condition_some, he]; rfl⟩

theorem conditions_of_ok {result : Option Condition} (h : condition (some filter) = .ok result) :
    ∃ conditions, filter.entries.mapM (fun entry => entry.2.condition entry.1) = .ok conditions ∧
      Condition.every conditions = result := by
  rw [condition_some] at h
  cases hm : filter.entries.mapM fun entry => entry.2.condition entry.1 with
  | error e =>
    rw [hm] at h
    cases h
  | ok conditions =>
    rw [hm] at h
    exact ⟨conditions, rfl, Except.ok.inj h⟩

theorem holds_condition {result : Condition} (h : condition (some filter) = .ok (some result))
    (collation : Collation) (doc : Document) : result.holds collation doc = true ↔
      ∀ entry ∈ filter.entries, entry.2.Holds collation doc entry.1 := by
  obtain ⟨conditions, hpass, hevery⟩ := conditions_of_ok h
  rw [Condition.holds_every hevery]
  constructor
  · intro hall entry hentry
    obtain ⟨c, hc, hentry⟩ := Sequencing.exists_result hpass entry hentry
    exact (Predicate.holds_condition hentry collation doc).1 (hall c hc)
  · intro hall c hc
    obtain ⟨entry, hentry, hcondition⟩ := Sequencing.exists_item hpass c hc
    exact (Predicate.holds_condition hcondition collation doc).2 (hall entry hentry)

theorem mem_starts_condition {result : Condition}
    (h : condition (some filter) = .ok (some result)) {field start : String} :
    (field, start) ∈ result.starts ↔ field = "song" ∧
      (field, Predicate.compare (.relation .eq) (.string (start ++ "%"))) ∈ filter.entries := by
  obtain ⟨conditions, hpass, hevery⟩ := conditions_of_ok h
  rw [Condition.mem_starts_every hevery]
  constructor
  · rintro ⟨c, hc, htest⟩
    obtain ⟨⟨name, p⟩, hentry, hcondition⟩ := Sequencing.exists_item hpass c hc
    obtain ⟨rfl, value, rfl, hfield, rfl⟩ :=
      (Predicate.mem_starts_condition hcondition).1 htest
    exact ⟨hfield, hentry⟩
  · rintro ⟨hfield, hentry⟩
    obtain ⟨c, hc, hcondition⟩ := Sequencing.exists_result hpass _ hentry
    exact ⟨c, hc, (Predicate.mem_starts_condition hcondition).2 ⟨rfl, _, rfl, hfield, rfl⟩⟩

/-- A filter is translated unless it compares by a token that is no relation, of which the least
field is told. Then the condition asks what the predicates ask, and begins-with tests stand for the
titles that a percent sign asks for, and for nothing else. -/
theorem condition_faithful (given : Option Filter) :
    ((∃ e, condition given = .error e) ↔
      ∃ filter field token, given = some filter ∧ filter.HasUnknown field token) ∧
    (∀ e, condition given = .error e → ∃ filter field token, given = some filter ∧
      filter.HasUnknown field token ∧ e = .unsupportedOperator field token ∧
      ∀ other token', filter.HasUnknown other token' →
        other = field ∨ Ord.compare field other = .lt) ∧
    (condition given = .ok none ↔ ∀ filter, given = some filter → filter.entries = []) ∧
    ∀ result, condition given = .ok (some result) → ∃ filter, given = some filter ∧
      (∀ collation doc, result.holds collation doc = true ↔
        ∀ entry ∈ filter.entries, entry.2.Holds collation doc entry.1) ∧
      ∀ field start, (field, start) ∈ result.starts ↔ field = "song" ∧
        (field, Predicate.compare (.relation .eq) (.string (start ++ "%"))) ∈ filter.entries := by
  cases given with
  | none =>
    have hnone : condition none = .ok none := rfl
    rw [hnone]
    refine ⟨⟨?_, ?_⟩, ?_, ⟨?_, ?_⟩, ?_⟩
    · rintro ⟨e, he⟩
      cases he
    · rintro ⟨filter, _, _, hfilter, -⟩
      cases hfilter
    · intro e he
      cases he
    · intro _ filter hfilter
      cases hfilter
    · intro _
      rfl
    · intro result hresult
      cases hresult
  | some filter =>
    refine ⟨⟨?_, ?_⟩, ?_, ⟨?_, ?_⟩, ?_⟩
    · rintro ⟨e, he⟩
      obtain ⟨field, token, hunknown, -⟩ := least_unknown_of_error he
      exact ⟨filter, field, token, rfl, hunknown⟩
    · rintro ⟨_, field, token, hfilter, hunknown⟩
      obtain rfl := Option.some.inj hfilter
      exact error_of_unknown hunknown
    · intro e he
      obtain ⟨field, token, hunknown, htold, hleast⟩ := least_unknown_of_error he
      exact ⟨filter, field, token, rfl, hunknown, htold, hleast⟩
    · intro h other hother
      obtain rfl := Option.some.inj hother
      obtain ⟨conditions, hpass, hevery⟩ := conditions_of_ok h
      obtain rfl := Condition.every_eq_none_iff.1 hevery
      exact List.map_eq_nil_iff.1 (Sequencing.mapM_eq_ok_iff.1 hpass)
    · intro h
      rw [condition_some, h filter rfl]
      rfl
    · intro result h
      exact ⟨filter, rfl, holds_condition h, fun field start => mem_starts_condition h⟩

end Filter

end Songbook
