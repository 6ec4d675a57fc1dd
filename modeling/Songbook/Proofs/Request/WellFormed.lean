import Songbook.Proofs.Request.Kept
import Songbook.Proofs.Request.Questions

/-!
# Well-formed descriptors

What plans and catalogs rely on without looking. Main statement: whatever the parameters of a
request are, the descriptor that is read from them, if any, is well formed, and it has no filter
exactly if all keys are keywords.
-/

namespace Songbook

/-- A field as an order names it. A minus may stand in front of blanks, which are kept. -/
structure IsSortField (field : String) : Prop where
  ne_empty : field ≠ ""
  bare : ',' ∉ field.toList
  ended : ∀ c, field.toList.getLast? = some c → Text.isBlank c = false

def Value.IsItem : Value → Prop
  | string s => Text.trim s = s ∧ ',' ∉ s.toList
  | _ => True

/-- Lists have several items, a single value of an equation is no list, and the only token that is
no relation is the empty one. -/
def Predicate.WellFormed : Predicate → Prop
  | oneOf values | noneOf values => 2 ≤ values.length ∧ ∀ value ∈ values, value.IsItem
  | compare (.relation .eq) value | compare (.relation .ne) value => value.IsItem
  | compare (.relation _) _ => True
  | compare (.other token) _ => token = ""

structure Question.WellFormed (question : Question) : Prop where
  named : question.name ≠ ""
  parted : '(' ∉ question.name.toList
  writable : ∀ param, question.param = some param → Writable param

structure Descriptor.WellFormed (descriptor : Descriptor) : Prop where
  skip : ∀ n, descriptor.skip = some n → 1 ≤ n
  limit : ∀ n, descriptor.limit = some n → 1 ≤ n
  sort : ∀ keys, descriptor.sort = some keys →
    keys ≠ [] ∧ (keys.map SortKey.field).Nodup ∧ ∀ key ∈ keys, IsSortField key.field
  filter : ∀ filter, descriptor.filter = some filter →
    ∀ entry ∈ filter.entries, IsFieldName entry.1 ∧ entry.2.WellFormed
  question : ∀ question, descriptor.question = some question → question.WellFormed

section Orders

namespace SortKey

theorem isSortField_of_ofToken? {token : String} {key : SortKey} (hbare : ',' ∉ token.toList)
    (h : ofToken? token = some key) : IsSortField key.field := by
  have hlast := Text.last_not_blank (Text.trimChars_trimChars token.toList)
  have hcomma : ',' ∉ Text.trimChars token.toList := fun hmem =>
    hbare (Text.mem_of_mem_trimChars hmem)
  rw [ofToken?] at h
  split at h
  · cases h
  · cases h
  · next field hminus htoken =>
    -- something follows the minus, so that it has the last character
    have hne : field ≠ [] := hminus
    obtain rfl := Option.some.inj h
    rw [htoken] at hlast hcomma
    constructor
    · simpa [desc] using hne
    · rw [desc, String.toList_ofList]
      exact fun hmem => hcomma (List.mem_cons_of_mem _ hmem)
    · intro c hc
      rw [desc, String.toList_ofList] at hc
      apply hlast c
      rw [List.getLast?_cons, hc]
      rfl
  · next hempty _ _ =>
    obtain rfl := Option.some.inj h
    constructor
    · simpa [asc] using hempty
    · rwa [asc, String.toList_ofList]
    · rwa [asc, String.toList_ofList]

theorem fields_combine (keys : List SortKey) : (combine keys).map field =
    (Entries.ofList (keys.map fun key => (key.field, key.direction))).keys := by
  rw [combine, List.map_map, Entries.keys]
  rfl

theorem isSortField_of_mem_ofValues {values : List String} {key : SortKey}
    (h : key ∈ ofValues values) : IsSortField key.field := by
  have hfield : key.field ∈ (ofValues values).map field := List.mem_map_of_mem h
  rw [ofValues, fields_combine, Entries.mem_keys_ofList, List.map_map] at hfield
  obtain ⟨read, hread, hsame⟩ := List.mem_map.1 hfield
  obtain ⟨token, htoken, hkey⟩ := List.mem_filterMap.1 hread
  obtain ⟨value, -, hpiece⟩ := List.mem_flatMap.1 htoken
  have hnamed := isSortField_of_ofToken? (Text.notMem_of_mem_pieces hpiece) hkey
  rwa [← hsame]

theorem nodup_fields_ofValues (values : List String) : ((ofValues values).map field).Nodup := by
  rw [ofValues, fields_combine]
  exact Entries.nodup_keys_ofList _

end SortKey

theorem Descriptor.sort_of_sortOf {params : Params} {keys : List SortKey}
    (h : sortOf params = some keys) :
    keys ≠ [] ∧ (keys.map SortKey.field).Nodup ∧ ∀ key ∈ keys, IsSortField key.field := by
  obtain ⟨hne, rfl⟩ := sortOf_eq_some_iff.1 h
  exact ⟨hne, SortKey.nodup_fields_ofValues _, fun key => SortKey.isSortField_of_mem_ofValues⟩

end Orders

section Counts

namespace Descriptor

theorem one_le_of_readCount {keyword raw : String} {n : UInt64}
    (h : readCount keyword raw = .ok (some n)) : 1 ≤ n := by
  unfold readCount at h
  simp only at h
  split at h
  · cases h
  · split at h
    · cases h
    · next count _ =>
      split at h
      · cases h
      · next hzero =>
        split at h
        · obtain rfl := Option.some.inj (Except.ok.inj h)
          have hword : min count (Number.wordLimit - 1) < UInt64.size :=
            Nat.lt_of_le_of_lt (Nat.min_le_right _ _) (by decide)
          rw [UInt64.le_iff_toNat_le, UInt64.toNat_ofNat_of_lt' hword]
          exact Nat.le_min.2 ⟨Nat.one_le_iff_ne_zero.2 hzero, by decide⟩
        · cases h

theorem one_le_of_countOf {params : Params} {keyword : String} {n : UInt64}
    (h : countOf params keyword = .ok (some n)) : 1 ≤ n := by
  obtain ⟨raw, -, hread⟩ := Sequencing.bind_eq_ok_iff.1 h
  cases raw with
  | none => cases hread
  | some raw => exact one_le_of_readCount hread

end Descriptor

end Counts

section Filters

namespace Params

theorem trim_foldKey (key : String) : Text.trim (foldKey key) = foldKey key := by
  rw [foldKey, ← Text.lower_trim, Text.trim_trim]

theorem isSmall_of_mem_foldKey {key : String} : ∀ c ∈ (foldKey key).toList, Text.IsSmall c :=
  Text.lower_eq_self_iff.1 (Text.lower_lower _)

theorem mem_keys_ofPairs {pairs : List (String × String)} {key : String} :
    key ∈ (ofPairs pairs).entries.keys ↔ ∃ pair ∈ pairs, foldKey pair.1 = key := by
  rw [← not_iff_not, ← Entries.get?_eq_none_iff]
  have hget := get?_ofPairs key pairs
  have hvalues : valuesOf key pairs = [] ↔ ¬ ∃ pair ∈ pairs, foldKey pair.1 = key := by
    simp [valuesOf]
  rw [get?] at hget
  rw [hget, ← hvalues]
  simp

end Params

theorem Clause.fieldChars_subset {s : String} {c : Char} (h : c ∈ fieldChars s) :
    c ∈ s.toList ∧ isOperatorChar c = false :=
  ⟨(List.takeWhile_sublist _).subset h, isBare_fieldChars s c h⟩

/-- The field of a parameter's key that has one. -/
theorem isFieldName_fieldOf {key : String} (htrim : Text.trim key = key)
    (hsmall : ∀ c ∈ key.toList, Text.IsSmall c) (hne : Clause.fieldChars key ≠ []) :
    IsFieldName (Clause.fieldOf key) := by
  have hmem : ∀ c ∈ (Clause.fieldOf key).toList, c ∈ Clause.fieldChars key := by
    intro c hc
    rw [Clause.fieldOf, Text.trim, String.toList_ofList, String.toList_ofList] at hc
    exact Text.mem_of_mem_trimChars hc
  constructor
  · -- the key is trimmed, so its first character is left
    obtain ⟨c, rest, hfield⟩ := List.exists_cons_of_ne_nil hne
    have hhead : key.toList.head? = some c := by
      rw [← List.takeWhile_append_dropWhile (p := (!Clause.isOperatorChar ·)) (l := key.toList)]
      change (Clause.fieldChars key ++ _).head? = some c
      rw [hfield]
      rfl
    have hblank := Text.head_not_blank (Text.trim_eq_self_iff.1 htrim) c hhead
    have hleft := Text.trimChars_ne_nil (hfield ▸ List.mem_cons_self) hblank
    intro hempty
    apply hleft
    rw [← String.toList_eq_nil_iff, Clause.fieldOf, Text.trim, String.toList_ofList,
      String.toList_ofList] at hempty
    exact hempty
  · exact Text.trim_trim _
  · apply Text.lower_eq_self_iff.2
    intro c hc
    exact hsmall c (Clause.fieldChars_subset (hmem c hc)).1
  · intro c hc
    exact (Clause.fieldChars_subset (hmem c hc)).2

namespace FieldType

theorem readNumber_cases (raw : String) :
    (∃ n, readNumber raw = .int64 n) ∨ ∃ d, readNumber raw = .double d := by
  unfold readNumber
  simp only
  split
  · exact .inl ⟨0, rfl⟩
  · split
    · exact .inl ⟨_, rfl⟩
    · exact .inr ⟨_, rfl⟩

theorem readDate_cases (raw : String) :
    (∃ millis, readDate raw = .date millis) ∨ readDate raw = .string (Text.trim raw) := by
  unfold readDate
  simp only
  split
  · exact .inl ⟨_, rfl⟩
  · split
    · exact .inl ⟨_, rfl⟩
    · exact .inr rfl

/-- A text is read as itself or not as a text. -/
theorem eq_of_read_string {fieldType : Option FieldType} {raw s : String}
    (h : read fieldType (Text.trim raw) = .string s) : s = Text.trim raw := by
  unfold read at h
  split at h
  · rcases readNumber_cases (Text.trim raw) with ⟨n, hn⟩ | ⟨d, hd⟩
    · rw [hn] at h
      cases h
    · rw [hd] at h
      cases h
  · rcases readDate_cases (Text.trim raw) with ⟨millis, hmillis⟩ | hs
    · rw [hmillis] at h
      cases h
    · rw [hs, Text.trim_trim] at h
      exact (Value.string.inj h).symm
  · cases h
  · exact (Value.string.inj h).symm
  · exact (Value.string.inj h).symm

theorem isItem_read (fieldType : Option FieldType) {raw : String} (hbare : ',' ∉ raw.toList) :
    (read fieldType (Text.trim raw)).IsItem := by
  cases hread : read fieldType (Text.trim raw) with
  | string s =>
    obtain rfl := eq_of_read_string hread
    refine ⟨Text.trim_trim raw, fun hmem => hbare ?_⟩
    rw [Text.trim, String.toList_ofList] at hmem
    exact Text.mem_of_mem_trimChars hmem
  | _ => trivial

end FieldType

namespace Clause

theorem token_of_read? {s : String} {clause : Clause} {token : String} (h : read? s = some clause)
    (hother : clause.operator = .other token) : token = "" := by
  obtain ⟨r, hr, -⟩ | ⟨hnone, -⟩ := (consistsOf_of_read? h).operator
  · rw [hother] at hr
    cases hr
  · exact Operator.other.inj (hother.symm.trans hnone)

theorem wellFormed_predicate (types : FieldTypes) (field : String) {s : String} {clause : Clause}
    (h : read? s = some clause) : (clause.predicate types field).WellFormed := by
  let read := fun part => FieldType.read (types.get? field) (Text.trim part)
  have hitems : ∀ value ∈ (Text.pieces ',' clause.value).map read, value.IsItem := by
    intro value hvalue
    obtain ⟨part, hpart, rfl⟩ := List.mem_map.1 hvalue
    exact FieldType.isItem_read _ (Text.notMem_of_mem_pieces hpart)
  have hsingle : (∀ first second rest, Text.pieces ',' clause.value ≠ first :: second :: rest) →
      (read clause.value).IsItem := by
    intro hpieces
    apply FieldType.isItem_read
    intro hmem
    obtain ⟨first, second, rest, hmany⟩ := Text.pieces_of_mem hmem
    exact hpieces first second rest hmany
  unfold predicate
  simp only
  split
  · next hpieces => exact ⟨by simp [hpieces], hitems⟩
  · next hpieces => exact ⟨by simp [hpieces], hitems⟩
  · next heq hne =>
    cases hoperator : clause.operator with
    | other token => exact token_of_read? h hoperator
    | relation r =>
      cases r with
      | eq => exact hsingle fun first second rest => heq first second rest hoperator
      | ne => exact hsingle fun first second rest => hne first second rest hoperator
      | _ => trivial

end Clause

theorem Filter.isFieldName_of_read? {key value : String} {clause : Clause}
    (h : Clause.read? (clauseText (Params.foldKey key) value) = some clause) :
    IsFieldName (Text.trim clause.field) := by
  rw [Clause.read?_eq_ite, (chars_clauseText _ _).1] at h
  split at h
  · cases h
  · next hfield =>
    obtain rfl := Option.some.inj h
    exact isFieldName_fieldOf (Params.trim_foldKey key) Params.isSmall_of_mem_foldKey
      (not_or.1 hfield).1

theorem Descriptor.wellFormed_of_filterOf {types : FieldTypes} {pairs : List (String × String)}
    {filter : Filter} (h : filterOf types (.ofPairs pairs) = .ok (some filter)) :
    ∀ entry ∈ filter.entries, IsFieldName entry.1 ∧ entry.2.WellFormed := by
  rintro ⟨field, predicate⟩ hentry
  obtain ⟨key, value, clause, hparam, hread, rfl, rfl⟩ := exists_param_of_filterOf h hentry
  obtain ⟨pair, -, rfl⟩ := Params.mem_keys_ofPairs.1 (List.mem_map_of_mem (f := Prod.fst) hparam)
  exact ⟨Filter.isFieldName_of_read? hread, Clause.wellFormed_predicate types _ hread⟩

end Filters

section Questions

namespace Question

theorem wellFormed_of_read? {s : String} {question : Question} (h : read? s = some question) :
    question.WellFormed := by
  have hopen : '(' ∉ s.toList.takeWhile (· != '(') := by
    intro hmem
    simpa using List.mem_takeWhile_imp hmem
  rw [read?, ofChars?] at h
  simp only at h
  split at h
  · cases h
  · next hname =>
    split at h
    · obtain rfl := Option.some.inj h
      exact ⟨by simpa using hname, by simpa using hopen, by rintro param ⟨⟩⟩
    · next inner _ =>
      split at h
      · next hinner =>
        obtain rfl := Option.some.inj h
        have hclose : ')' ∉ inner.takeWhile (· != ')') := by
          intro hmem
          simpa using List.mem_takeWhile_imp hmem
        refine ⟨by simpa using hname, by simpa using hopen, ?_⟩
        rintro param hparam
        obtain rfl := Option.some.inj hparam
        exact ⟨by simpa using hinner.2, by rwa [String.toList_ofList]⟩
      · cases h

end Question

theorem Descriptor.wellFormed_of_questionOf {params : Params} {question : Question}
    (h : questionOf params = .ok (some question)) : question.WellFormed := by
  obtain ⟨raw, -, hread⟩ := Sequencing.bind_eq_ok_iff.1 h
  cases raw with
  | none => cases hread
  | some raw =>
    simp only at hread
    split at hread
    · cases hread
    · cases hquestion : Question.read? raw with
      | none =>
        rw [hquestion] at hread
        cases hread
      | some read =>
        rw [hquestion] at hread
        obtain rfl := Option.some.inj (Except.ok.inj hread)
        exact Question.wellFormed_of_read? hquestion

end Questions

namespace Descriptor

/-- Whatever is read from a request is well formed. It is without a filter exactly if all keys are
keywords. -/
theorem wellFormed_of_read {types : FieldTypes} {pairs : List (String × String)}
    {descriptor : Descriptor} (h : ofParams types (.ofPairs pairs) = .ok descriptor) :
    descriptor.WellFormed ∧
      (descriptor.filter = none ↔ ∀ pair ∈ pairs, Params.foldKey pair.1 ∈ keywords) := by
  obtain ⟨hlimit, hskip, hfilter, hquestion, hsort⟩ := ofParams_eq_ok_iff.1 h
  constructor
  · constructor
    · intro n hn
      exact one_le_of_countOf (hn ▸ hskip)
    · intro n hn
      exact one_le_of_countOf (hn ▸ hlimit)
    · intro keys hkeys
      exact sort_of_sortOf (hsort.trans hkeys)
    · intro filter hsome
      rw [hsome] at hfilter
      exact wellFormed_of_filterOf hfilter
    · intro question hsome
      exact wellFormed_of_questionOf (hsome ▸ hquestion)
  · have hnone : descriptor.filter = none ↔ filterOf types (.ofPairs pairs) = .ok none := by
      rw [hfilter, Except.ok.injEq]
    rw [hnone, filterOf_eq_none_iff]
    simp only [Params.mem_keys_ofPairs]
    constructor
    · intro hall pair hpair
      exact hall _ ⟨pair, hpair, rfl⟩
    · rintro hall key ⟨pair, hpair, rfl⟩
      exact hall pair hpair

def redAndLover : List (String × String) :=
  [("Album!", " Red , Lover"), ("sort", "year, -,-song,-year"), ("question", "year(2012)")]

theorem wellFormed_of_read_redAndLover : ∃ descriptor,
    ofParams [] (.ofPairs redAndLover) = .ok descriptor ∧ descriptor.WellFormed ∧
      descriptor.sort = some [.desc "year", .desc "song"] ∧
      descriptor.question = some ⟨"year", some "2012"⟩ ∧
      descriptor.filter =
        some (Filter.empty.insert "album" (.noneOf [.string "red", .string "lover"])) ∧
      ¬ ∀ pair ∈ redAndLover, Params.foldKey pair.1 ∈ keywords := by
  let filter := Filter.empty.insert "album" (.noneOf [.string "red", .string "lover"])
  have hread : ofParams [] (.ofPairs redAndLover) =
      .ok { sort := some [.desc "year", .desc "song"], filter := some filter,
            question := some ⟨"year", some "2012"⟩ } :=
    ofParams_eq_ok_iff.2 ⟨rfl, rfl, rfl, rfl, rfl⟩
  obtain ⟨hformed, hfilter⟩ := wellFormed_of_read hread
  exact ⟨_, hread, hformed, rfl, rfl, rfl, fun hall => nomatch hfilter.2 hall⟩

end Descriptor

end Songbook
