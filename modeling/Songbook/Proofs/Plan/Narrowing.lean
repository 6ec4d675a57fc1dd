import Songbook.Proofs.Plan.Questions
import Songbook.Proofs.Request.Json
import Songbook.Proofs.Request.Parts
import Songbook.Proofs.Store.Matching

/-!
# Descriptors read back

Main statement: a descriptor that is written as JSON and read back is the same but for the kinds of
some numbers. Without doubles it asks for the same documents, or meets the same fault.
-/

namespace Songbook

open Sequencing (Alike)

section Values

namespace Value

def isDouble : Value → Bool
  | double _ => true
  | _ => false

variable {collation : Collation} {value : Value}

/-- An integer compares by what it counts, whatever its width. -/
theorem compare?_of_integer? {i : Int} (h : value.integer? = some i) (stored : Value) :
    stored.compare? collation value = match stored.integer? with
      | some m => some (compare m i)
      | none => stored.number?.bind fun x => x.compare? (Double.ofInt i) := by
  cases value with
  | int32 n | int64 n =>
    obtain rfl := Option.some.inj h
    cases stored <;> rfl
  | _ => cases h

theorem equal_of_integer? {i : Int} (h : value.integer? = some i) (stored : Value) :
    stored.equal collation value = (stored.compare? collation value == some .eq) := by
  cases value with
  | int32 n | int64 n => cases stored <;> simp [equal]
  | _ => cases h

theorem narrowed_cases (h : value.isDouble = false) :
    value.narrowed = value ∨
      ∃ i, value.integer? = some i ∧ value.narrowed.integer? = some i := by
  cases value with
  | int64 n => exact .inr ⟨n.toInt, rfl, integer?_narrowed_int64 n⟩
  | double d => cases h
  | _ => exact .inl rfl

theorem compare?_narrowed (h : value.isDouble = false) (stored : Value) :
    stored.compare? collation value.narrowed = stored.compare? collation value := by
  rcases narrowed_cases h with hsame | ⟨i, hi, hnarrowed⟩
  · rw [hsame]
  · rw [compare?_of_integer? hi, compare?_of_integer? hnarrowed]

theorem equal_narrowed (h : value.isDouble = false) (stored : Value) :
    stored.equal collation value.narrowed = stored.equal collation value := by
  rcases narrowed_cases h with hsame | ⟨i, hi, hnarrowed⟩
  · rw [hsame]
  · rw [equal_of_integer? hi, equal_of_integer? hnarrowed, compare?_narrowed h]

theorem isNull_narrowed (h : value.isDouble = false) : value.narrowed.isNull = value.isNull := by
  cases value with
  | int64 n => rw [narrowed]; split <;> rfl
  | double d => cases h
  | _ => rfl

theorem startOf?_narrowed (field : String) (value : Value) :
    startOf? field value.narrowed = startOf? field value := by
  cases value with
  | int64 n => rw [narrowed]; split <;> rfl
  | double d => rw [narrowed]; split <;> rfl
  | _ => rfl

theorem fieldEquals_narrowed (h : value.isDouble = false) (doc : Document) (field : String) :
    Condition.fieldEquals collation doc field value.narrowed =
      Condition.fieldEquals collation doc field value := by
  unfold Condition.fieldEquals
  rw [isNull_narrowed h]
  simp only [equal_narrowed h]

theorem any_fieldEquals_narrowed {values : List Value} (h : ∀ value ∈ values, value.isDouble = false)
    (doc : Document) (field : String) :
    (values.map narrowed).any (Condition.fieldEquals collation doc field) =
      values.any (Condition.fieldEquals collation doc field) := by
  induction values with
  | nil => rfl
  | cons value rest ih =>
    have hrest := ih fun other hother => h other (List.mem_cons_of_mem value hother)
    rw [List.map_cons, List.any_cons, List.any_cons, hrest,
      fieldEquals_narrowed (h value List.mem_cons_self)]

end Value

end Values

section Conditions

namespace Condition

/-- Two conditions that the same documents meet, under every collation. -/
def Agree (condition other : Condition) : Prop :=
  ∀ collation doc, condition.holds collation doc = other.holds collation doc

/-- The same of conditions that may be absent, which all documents meet. -/
def AgreeOn (given other : Option Condition) : Prop :=
  ∀ collation doc, given.all (·.holds collation doc) = other.all (·.holds collation doc)

theorem allHold_eq_all (collation : Collation) (doc : Document) (conditions : List Condition) :
    allHold collation doc conditions = conditions.all (·.holds collation doc) := by
  induction conditions with
  | nil => rfl
  | cons condition rest ih => rw [allHold, ih, List.all_cons]

theorem all_every (collation : Collation) (doc : Document) (conditions : List Condition) :
    (every conditions).all (·.holds collation doc) =
      conditions.all (·.holds collation doc) := by
  match conditions with
  | [] => rfl
  | [condition] => simp [every]
  | first :: second :: rest => simp [every, holds, allHold_eq_all]

theorem agreeOn_every {conditions others : List Condition}
    (h : List.Forall₂ Agree conditions others) : AgreeOn (every conditions) (every others) := by
  intro collation doc
  rw [all_every, all_every]
  induction h with
  | nil => rfl
  | cons hfirst _ ih => rw [List.all_cons, List.all_cons, hfirst collation doc, ih]

end Condition

theorem Predicate.condition_narrowed {predicate : Predicate}
    (h : ∀ value ∈ predicate.values, value.isDouble = false) (field : String) :
    Alike Condition.Agree (predicate.condition field) (predicate.narrowed.condition field) := by
  cases predicate with
  | compare operator value =>
    have hvalue : value.isDouble = false := h value List.mem_cons_self
    cases operator with
    | other token => exact .error _
    | relation r =>
      cases r with
      | eq =>
        rw [narrowed, condition, condition, Value.startOf?_narrowed]
        cases startOf? field value with
        | none =>
          refine .ok fun collation doc => ?_
          rw [Condition.holds, Condition.holds, Value.fieldEquals_narrowed hvalue]
        | some start => exact .ok fun collation doc => rfl
      | ne =>
        refine .ok fun collation doc => ?_
        rw [Condition.holds, Condition.holds, Value.fieldEquals_narrowed hvalue]
      | _ =>
        refine .ok fun collation doc => ?_
        simp only [Condition.holds, Value.compare?_narrowed hvalue]
  | oneOf values =>
    have hvalues : ∀ value ∈ values, value.isDouble = false := h
    refine .ok fun collation doc => ?_
    rw [Condition.holds, Condition.holds, Value.any_fieldEquals_narrowed hvalues]
  | noneOf values =>
    have hvalues : ∀ value ∈ values, value.isDouble = false := h
    refine .ok fun collation doc => ?_
    rw [Condition.holds, Condition.holds, Value.any_fieldEquals_narrowed hvalues]

theorem Filter.condition_narrowed {given : Option Filter}
    (h : ∀ filter, given = some filter → ∀ value ∈ filter.values, value.isDouble = false) :
    Alike Condition.AgreeOn (condition given) (condition (given.map narrowed)) := by
  cases given with
  | none => exact .ok fun collation doc => rfl
  | some filter =>
    have hentries : ∀ entry ∈ filter.entries, Alike Condition.Agree (entry.2.condition entry.1)
        (entry.2.narrowed.condition entry.1) := by
      intro entry hentry
      apply Predicate.condition_narrowed
      intro value hvalue
      exact h filter rfl value (List.mem_flatMap.2 ⟨entry, hentry, hvalue⟩)
    rw [Option.map_some, condition, condition]
    refine (Alike.mapM hentries).bind fun conditions others hagree => ?_
    exact .ok (Condition.agreeOn_every hagree)

end Conditions

section Plans

theorem Descriptor.condition_narrowed {descriptor : Descriptor}
    (h : ∀ value ∈ descriptor.values, value.isDouble = false) :
    Alike Condition.AgreeOn (Filter.condition descriptor.filter)
      (Filter.condition descriptor.narrowed.filter) := by
  apply Filter.condition_narrowed
  intro filter hfilter
  rwa [values, hfilter] at h

namespace Plan

variable {descriptor : Descriptor} (h : ∀ value ∈ descriptor.values, value.isDouble = false)
  (catalog : Catalog)

theorem liftRequest_alike {α β : Type} {R : α → β → Prop} {x : Except RequestError α}
    {y : Except RequestError β} (h : Alike R x y) : Alike R (liftRequest x) (liftRequest y) := by
  cases h with
  | ok h => exact .ok h
  | error e => exact .error _

include h

theorem songStages_narrowed : Alike (fun _ _ => True) (songStages catalog descriptor)
    (songStages catalog descriptor.narrowed) := by
  cases hquestion : descriptor.question with
  | none =>
    have hnone : descriptor.narrowed.question = none := hquestion
    rw [songStages, songStages, hquestion, hnone]
    exact (liftRequest_alike (Descriptor.condition_narrowed h)).bind fun _ _ _ => .ok trivial
  | some question =>
    have hsame : songStages catalog descriptor.narrowed = songStages catalog descriptor :=
      songStages_of_question catalog hquestion (descriptor.filter.map Filter.narrowed)
    rw [hsame]
    exact Alike.refl (fun _ => trivial) _

theorem forSongs_narrowed : Alike (fun _ _ => True) (forSongs catalog descriptor)
    (forSongs catalog descriptor.narrowed) := by
  cases hquestion : descriptor.question with
  | none =>
    have hnone : descriptor.narrowed.question = none := hquestion
    rw [forSongs, forSongs, hquestion, hnone]
    exact (liftRequest_alike (Descriptor.condition_narrowed h)).bind fun _ _ _ => .ok trivial
  | some question =>
    have hsame : forSongs catalog descriptor.narrowed = forSongs catalog descriptor :=
      forSongs_of_question catalog hquestion descriptor.sort
        (descriptor.filter.map Filter.narrowed)
    rw [hsame]
    exact Alike.refl (fun _ => trivial) _

theorem forAlbums_narrowed (defaultField : String) :
    Alike (fun _ _ => True) (forAlbums catalog defaultField descriptor)
      (forAlbums catalog defaultField descriptor.narrowed) :=
  (songStages_narrowed h catalog).bind fun _ _ _ => .ok trivial

end Plan

end Plans

namespace Descriptor

/-- What a request is read as holds plain values, finite doubles apart. A descriptor of plain values,
with whatever names, texts, tokens and counts, comes back from its text narrowed and is written as
before. Without doubles it is planned with the same success or fault, and its condition selects the
same documents. -/
theorem survives_json :
    (∀ types pairs descriptor, ofParams types (.ofPairs pairs) = .ok descriptor →
      (∀ value ∈ descriptor.values, value.isFiniteDouble = false) → descriptor.Plain) ∧
    ∀ descriptor : Descriptor, descriptor.Plain →
      read? descriptor.write = some descriptor.narrowed ∧
      descriptor.narrowed.write = descriptor.write ∧
      ((∀ value ∈ descriptor.values, value.isDouble = false) →
        (∀ catalog, Alike (fun _ _ => True) (Plan.forSongs catalog descriptor)
          (Plan.forSongs catalog descriptor.narrowed)) ∧
        (∀ catalog defaultField, Alike (fun _ _ => True)
          (Plan.forAlbums catalog defaultField descriptor)
          (Plan.forAlbums catalog defaultField descriptor.narrowed)) ∧
        Alike Condition.AgreeOn (Filter.condition descriptor.filter)
          (Filter.condition descriptor.narrowed.filter)) := by
  constructor
  · intro types pairs descriptor h
    exact plain_of_ofParams h
  · intro descriptor hplain
    refine ⟨read?_write hplain, write_narrowed descriptor, fun hdoubles => ⟨?_, ?_, ?_⟩⟩
    · exact Plan.forSongs_narrowed hdoubles
    · exact Plan.forAlbums_narrowed hdoubles
    · exact condition_narrowed hdoubles

def sinceRed : List (String × String) :=
  [("year>", "2012"), ("Song", "\"22\"\t\\%"), ("limit", "7")]

theorem survives_json_sinceRed : ∃ descriptor,
    ofParams [("year", .number)] (.ofPairs sinceRed) = .ok descriptor ∧
      read? descriptor.write = some descriptor.narrowed ∧
      descriptor.narrowed.write = descriptor.write ∧
      (descriptor.filter.map Filter.entries = some
        [("song", .compare (.relation .eq) (.string "\"22\"\t\\%")),
          ("year", .compare (.relation .ge) (.int64 2012))]) ∧
      (descriptor.narrowed.filter.map Filter.entries = some
        [("song", .compare (.relation .eq) (.string "\"22\"\t\\%")),
          ("year", .compare (.relation .ge) (.int32 2012))]) ∧
      Alike Condition.AgreeOn (Filter.condition descriptor.filter)
        (Filter.condition descriptor.narrowed.filter) := by
  let filter := (Filter.empty.insert "year" (.compare (.relation .ge) (.int64 2012))).insert "song"
    (.compare (.relation .eq) (.string "\"22\"\t\\%"))
  let descriptor : Descriptor := { limit := some 7, filter := some filter }
  have hread : ofParams [("year", .number)] (.ofPairs sinceRed) = .ok descriptor :=
    ofParams_eq_ok_iff.2 ⟨by decide +kernel, rfl, rfl, rfl, rfl⟩
  have hvalues : descriptor.values = [.string "\"22\"\t\\%", .int64 2012] := rfl
  have hfinite : ∀ value ∈ descriptor.values, value.isFiniteDouble = false := by
    simp [hvalues, Value.isFiniteDouble]
  have hdoubles : ∀ value ∈ descriptor.values, value.isDouble = false := by
    simp [hvalues, Value.isDouble]
  obtain ⟨hplain, hback⟩ := survives_json
  obtain ⟨hreread, hrewritten, halike⟩ := hback descriptor (hplain _ _ descriptor hread hfinite)
  exact ⟨descriptor, hread, hreread, hrewritten, rfl, rfl, (halike hdoubles).2.2⟩

end Descriptor

end Songbook
