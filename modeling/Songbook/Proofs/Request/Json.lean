import Songbook.Proofs.Json.Fields
import Songbook.Proofs.Request.WellFormed
import Songbook.Proofs.Value.Json
import Songbook.Request.Json

/-!
# Descriptors through JSON

Main statement: a descriptor of plain values is read back from its text, its values narrowed.
-/

namespace Songbook

section Choices

theorem Operator.ofJson?_toJson (operator : Operator) :
    ofJson? operator.toJson = some operator := by
  cases operator with
  | relation r => cases r <;> rfl
  | other token => rfl

theorem Operator.proper_toJson (operator : Operator) : operator.toJson.Proper := by
  cases operator with
  | relation r => exact .string _
  | other token => exact .object (by simp [Json.Proper.string])

end Choices

section Orders

namespace SortKey

theorem ofJson?_toJson (key : SortKey) : ofJson? key.toJson = some key := by
  obtain ⟨field, direction⟩ := key
  cases direction <;> rfl

theorem proper_toJson (key : SortKey) : key.toJson.Proper :=
  .object (by simp [Json.Proper.string])

end SortKey

end Orders

section Predicates

namespace Predicate

def values : Predicate → List Value
  | compare _ value => [value]
  | oneOf values | noneOf values => values

def narrowed : Predicate → Predicate
  | compare operator value => compare operator value.narrowed
  | oneOf values => oneOf (values.map Value.narrowed)
  | noneOf values => noneOf (values.map Value.narrowed)

theorem ofJson?_toJson {predicate : Predicate} (h : ∀ value ∈ predicate.values, value.Plain) :
    ofJson? predicate.toJson = some predicate.narrowed := by
  -- there are 123 levels left for a value, of which a date takes two
  have hvalue : ∀ value ∈ predicate.values,
      Value.ofJson? ofJson?.levels value.toJson = some value.narrowed :=
    fun value hmem => Value.ofJson?_toJson (h value hmem) 121
  cases predicate with
  | compare operator value =>
    have hfields : Json.fields? ["operator", "value"] false
        (.object [("operator", operator.toJson), ("value", value.toJson)]) =
          some [some operator.toJson, some value.toJson] :=
      Json.fields?_object (by simp) false
    rw [toJson, ofJson?, hfields]
    simp [Operator.ofJson?_toJson, hvalue value (by simp [values]), narrowed]
  | oneOf items =>
    have hitems : Json.array? (Value.ofJson? ofJson?.levels) (.array (items.map Value.toJson)) =
        some (items.map Value.narrowed) := Json.array?_written hvalue
    rw [toJson, ofJson?, hitems]
    rfl
  | noneOf items =>
    have hitems : Json.array? (Value.ofJson? ofJson?.levels) (.array (items.map Value.toJson)) =
        some (items.map Value.narrowed) := Json.array?_written hvalue
    rw [toJson, ofJson?, hitems]
    rfl

theorem toJson_narrowed (predicate : Predicate) : predicate.narrowed.toJson = predicate.toJson := by
  cases predicate <;> simp [narrowed, toJson, Value.toJson_narrowed]

theorem proper_toJson (predicate : Predicate) : predicate.toJson.Proper := by
  cases predicate with
  | compare operator value =>
    have hparts : (Json.object [("operator", operator.toJson), ("value", value.toJson)]).Proper :=
      .object (by simp [Operator.proper_toJson, Value.proper_toJson])
    exact .object (by simpa using hparts)
  | oneOf values | noneOf values =>
    have hitems : (Json.array (values.map Value.toJson)).Proper :=
      .array (by simp [Value.proper_toJson])
    exact .object (by simpa using hitems)

end Predicate

namespace Filter

theorem place_of_last {field : String} {predicate : Predicate} {entries : Entries Predicate}
    (h : ∀ entry ∈ entries, Ord.compare entry.1 field = .lt) :
    place field predicate entries = entries ++ [(field, predicate)] := by
  induction entries with
  | nil => rfl
  | cons entry rest ih =>
    have hgt := Std.OrientedCmp.gt_iff_lt.2 (h entry List.mem_cons_self)
    rw [place, hgt, ih fun other hother => h other (List.mem_cons_of_mem _ hother)]
    rfl

theorem entries_ofList {pairs : List (String × Predicate)}
    (h : pairs.Pairwise fun a b => Ord.compare a.1 b.1 = .lt) : (ofList pairs).entries = pairs := by
  induction pairs using List.reverseRecOn with
  | nil => rfl
  | append_singleton pairs pair ih =>
    obtain ⟨hpairs, -, hlast⟩ := List.pairwise_append.1 h
    have hinsert : (ofList (pairs ++ [pair])).entries =
        place pair.1 pair.2 (ofList pairs).entries := by
      rw [ofList, List.foldl_append]
      rfl
    rw [hinsert, ih hpairs]
    exact place_of_last fun entry hentry => hlast entry hentry pair List.mem_cons_self

def narrowed (filter : Filter) : Filter where
  entries := filter.entries.map fun entry => (entry.1, entry.2.narrowed)
  sorted := List.pairwise_map.2 filter.sorted

def values (filter : Filter) : List Value :=
  filter.entries.flatMap fun entry => entry.2.values

theorem ofList_entries (filter : Filter) : ofList filter.entries = filter := by
  apply ext_get?
  intro field
  rw [get?, entries_ofList filter.sorted, get?]

theorem ofJson?_toJson {filter : Filter} (h : ∀ value ∈ filter.values, value.Plain) :
    ofJson? filter.toJson = some filter.narrowed := by
  have hentry : ∀ entry ∈ filter.entries,
      (do return (entry.1, ← Predicate.ofJson? entry.2.toJson) : Option (String × Predicate)) =
        some (entry.1, entry.2.narrowed) := by
    intro entry hentry
    have hread := Predicate.ofJson?_toJson fun value hvalue =>
      h value (List.mem_flatMap.2 ⟨entry, hentry, hvalue⟩)
    rw [hread]
    rfl
  rw [toJson, ofJson?, Sequencing.mapM_map_eq_some hentry]
  exact congrArg some (ofList_entries filter.narrowed)

theorem toJson_narrowed (filter : Filter) : filter.narrowed.toJson = filter.toJson := by
  simp [toJson, narrowed, Predicate.toJson_narrowed]

theorem proper_toJson (filter : Filter) : filter.toJson.Proper := by
  constructor
  intro member hmember
  obtain ⟨entry, -, rfl⟩ := List.mem_map.1 hmember
  exact entry.2.proper_toJson

end Filter

end Predicates

section Questions

namespace Question

theorem ofJson?_toJson (question : Question) : ofJson? question.toJson = some question := by
  obtain ⟨name, param⟩ := question
  cases param <;> rfl

theorem proper_toJson (question : Question) : question.toJson.Proper := by
  obtain ⟨name, param⟩ := question
  cases param <;> exact .object (by simp [Json.Proper.string, Json.Proper.null])

end Question

end Questions

namespace Descriptor

theorem count?_countToJson (n : UInt64) : Json.count? (countToJson n) = some n := by
  have hlt : n.toNat < Number.wordLimit := n.toNat_lt
  have hword : ¬ ((Numeral.ofInt n.toNat).negative = true ∨
      (Number.wordLimit : Int) ≤ n.toNat) := by
    have hsign : (Numeral.ofInt n.toNat).negative = decide ((n.toNat : Int) < 0) := rfl
    rw [hsign, decide_eq_true_eq]
    omega
  rw [countToJson, Json.count?, Numeral.toInt?_ofInt]
  simp only [if_neg hword, Int.toNat_natCast, UInt64.ofNat_toNat]

def values (descriptor : Descriptor) : List Value :=
  (descriptor.filter.map Filter.values).getD []

def narrowed (descriptor : Descriptor) : Descriptor :=
  { descriptor with filter := descriptor.filter.map Filter.narrowed }

def Plain (descriptor : Descriptor) : Prop :=
  ∀ value ∈ descriptor.values, value.Plain

variable {descriptor : Descriptor}

theorem Plain.of_filter (h : descriptor.Plain) {filter : Filter}
    (hfilter : descriptor.filter = some filter) : ∀ value ∈ filter.values, value.Plain := by
  rw [Plain, values, hfilter] at h
  exact h

theorem ofJson?_toJson (h : descriptor.Plain) :
    ofJson? descriptor.toJson = some descriptor.narrowed := by
  have hfields : Json.fields? ["skip", "limit", "sort", "filter", "question"] false
      descriptor.toJson =
        some [some ((descriptor.skip.map countToJson).getD .null),
          some ((descriptor.limit.map countToJson).getD .null),
          some ((descriptor.sort.map fun keys => .array (keys.map SortKey.toJson)).getD .null),
          some ((descriptor.filter.map Filter.toJson).getD .null),
          some ((descriptor.question.map Question.toJson).getD .null)] :=
    Json.fields?_object (by simp) false
  have hcount := Json.optional?_inverse count?_countToJson (by rintro n ⟨⟩)
  have hsort := Json.optional?_inverse (Json.array?_inverse SortKey.ofJson?_toJson)
    (by rintro keys ⟨⟩) descriptor.sort
  have hfilter := Json.optional?_written (by rintro filter ⟨⟩) fun filter hfilter =>
    Filter.ofJson?_toJson (h.of_filter hfilter)
  have hquestion := Json.optional?_inverse Question.ofJson?_toJson (by rintro question ⟨⟩)
    descriptor.question
  rw [ofJson?, hfields]
  simp only [bind, Option.bind, hcount, hsort, hfilter, hquestion]
  rfl

theorem toJson_narrowed (descriptor : Descriptor) :
    descriptor.narrowed.toJson = descriptor.toJson := by
  cases hfilter : descriptor.filter <;> simp [toJson, narrowed, hfilter, Filter.toJson_narrowed]

theorem proper_getD {α : Type} {write : α → Json} (h : ∀ a, (write a).Proper)
    (given : Option α) : ((given.map write).getD .null).Proper := by
  cases given with
  | none => exact .null
  | some a => exact h a

theorem proper_toJson (descriptor : Descriptor) : descriptor.toJson.Proper := by
  have hcount := proper_getD fun n : UInt64 => Numeral.proper_ofInt n.toNat
  have hsort : ((descriptor.sort.map fun keys =>
      Json.array (keys.map SortKey.toJson)).getD .null).Proper :=
    proper_getD (fun keys => .array (by simp [SortKey.proper_toJson])) descriptor.sort
  have hfilter := proper_getD Filter.proper_toJson descriptor.filter
  have hquestion := proper_getD Question.proper_toJson descriptor.question
  apply Json.Proper.object
  simp only [List.forall_mem_cons]
  exact ⟨hcount _, hcount _, hsort, hfilter, hquestion, by rintro member ⟨⟩⟩

/-- A descriptor of plain values is read back from its text, narrowed. -/
theorem read?_write (h : descriptor.Plain) :
    read? descriptor.write = some descriptor.narrowed := by
  rw [read?, write, Json.read?_write descriptor.proper_toJson]
  exact ofJson?_toJson h

theorem write_narrowed (descriptor : Descriptor) :
    descriptor.narrowed.write = descriptor.write := by
  rw [write, toJson_narrowed, write]

end Descriptor

section Requests

def Value.isFiniteDouble : Value → Bool
  | double d => d.isFinite
  | _ => false

theorem FieldType.plain_read (fieldType : Option FieldType) (raw : String)
    (h : (read fieldType raw).isFiniteDouble = false) : (read fieldType raw).Plain := by
  match fieldType with
  | some number =>
    rw [read] at h ⊢
    rcases readNumber_cases raw with ⟨n, hn⟩ | ⟨d, hd⟩
    · exact hn ▸ .int64 n
    · rw [hd] at h ⊢
      exact .double h
  | some date =>
    rw [read]
    rcases readDate_cases raw with ⟨millis, hmillis⟩ | hs
    · exact hmillis ▸ .date millis
    · exact hs ▸ .string _
  | some boolean => exact .bool _
  | some string | none => exact .string _

theorem Clause.exists_read_of_mem {types : FieldTypes} {field : String} {clause : Clause}
    {value : Value} (h : value ∈ (clause.predicate types field).values) :
    ∃ raw, FieldType.read (types.get? field) raw = value := by
  unfold predicate at h
  simp only at h
  split at h
  · obtain ⟨part, -, rfl⟩ := List.mem_map.1 h
    exact ⟨_, rfl⟩
  · obtain ⟨part, -, rfl⟩ := List.mem_map.1 h
    exact ⟨_, rfl⟩
  · exact ⟨_, (List.mem_singleton.1 h).symm⟩

/-- What a request asks for is plain, finite doubles apart. -/
theorem Descriptor.plain_of_ofParams {types : FieldTypes} {params : Params}
    {descriptor : Descriptor} (h : ofParams types params = .ok descriptor)
    (hfinite : ∀ value ∈ descriptor.values, value.isFiniteDouble = false) : descriptor.Plain := by
  obtain ⟨-, -, hfilter, -, -⟩ := ofParams_eq_ok_iff.1 h
  intro value hvalue
  have hsmall := hfinite value hvalue
  cases hgiven : descriptor.filter with
  | none => simp [values, hgiven] at hvalue
  | some filter =>
    rw [values, hgiven] at hvalue
    rw [hgiven] at hfilter
    obtain ⟨entry, hentry, hmem⟩ := List.mem_flatMap.1 hvalue
    obtain ⟨key, line, clause, -, -, -, hpredicate⟩ := exists_param_of_filterOf hfilter hentry
    rw [← hpredicate] at hmem
    obtain ⟨raw, rfl⟩ := Clause.exists_read_of_mem hmem
    exact FieldType.plain_read _ raw hsmall

end Requests

end Songbook
