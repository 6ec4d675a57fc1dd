import Songbook.Proofs.Plan.Translation
import Songbook.Proofs.Request.Grammar
import Songbook.Proofs.Request.Parts
import Songbook.Proofs.Request.Wire
import Songbook.Proofs.Text.Lowering

/-!
# Kept parameters

A parameter under a key that is no keyword asks something of a field. Its clause has to end on the
line of its operator, and a clause that goes on is passed over. Main statement: every request keeps
what a parameter asks, so that it is never left without a filter, exactly if no line feed follows
the field.
-/

namespace Songbook

namespace Clause

def fieldOf (s : String) : String :=
  Text.trim (String.ofList (fieldChars s))

end Clause

structure IsFilterKey (key : String) : Prop where
  free : key ∉ Descriptor.keywords
  headed : ∃ c, key.toList.head? = some c ∧ Clause.isOperatorChar c = false

theorem IsFilterKey.fieldChars_ne_nil {key : String} (hkey : IsFilterKey key) :
    Clause.fieldChars key ≠ [] :=
  Clause.fieldChars_ne_nil_iff.2 hkey.headed

/-- No line feed follows the field of a parameter, in its key or in its value. -/
def OneLine (key value : String) : Prop :=
  '\n' ∉ Clause.tailChars key ∧ '\n' ∉ value.toList

instance (key value : String) : Decidable (OneLine key value) :=
  inferInstanceAs (Decidable (_ ∧ _))

namespace Filter

variable {types : FieldTypes} {filter next : Filter} {key value : String}

/-- The value of a parameter follows an equals sign, so the field is the key's. -/
theorem chars_clauseText (key value : String) :
    Clause.fieldChars (clauseText key value) = Clause.fieldChars key ∧
      ('\n' ∈ Clause.tailChars (clauseText key value) ↔ ¬ OneLine key value) := by
  rw [OneLine, clauseText]
  by_cases hvalue : value = ""
  · subst hvalue
    simp
  · have hlist : (key ++ "=" ++ value).toList = key.toList ++ '=' :: value.toList := by
      simp [String.toList_append]
    have hstop : ∀ c, ('=' :: value.toList).head? = some c →
        (!Clause.isOperatorChar c) = false := by
      simp [Clause.isOperatorChar]
    have hspan := Text.span_append (p := (!Clause.isOperatorChar ·)) hstop key.toList
    have hempty : value.isEmpty = false := by simpa using hvalue
    rw [hempty, if_neg Bool.false_ne_true, Clause.fieldChars, Clause.tailChars, hlist, hspan.1,
      hspan.2]
    refine ⟨rfl, ?_⟩
    rw [Clause.tailChars, List.mem_append, not_and_or, not_not, not_not]
    simp

theorem addParam_of_more_lines (hline : ¬ OneLine key value) :
    addParam types filter (key, [value]) = .ok filter := by
  have hread : Clause.read? (clauseText key value) = none := by
    rw [Clause.read?_eq_ite, if_pos (.inr ((chars_clauseText key value).2.2 hline))]
  exact addParam_of_adds (.nothing hread)

theorem isSome_get?_of_adds {param : String × List String} {name : String}
    (h : Adds types filter param next) (hname : (filter.get? name).isSome) :
    (next.get? name).isSome := by
  cases h with
  | nothing => exact hname
  | predicate =>
    rw [get?_insert]
    split
    · rfl
    · exact hname

/-- A parameter on one line puts a predicate on its field. -/
theorem isSome_get?_of_one_line {values : List String} (hkey : IsFilterKey key)
    (hmem : value ∈ values) (hline : OneLine key value)
    (h : Adds types filter (key, values) next) : (next.get? (Clause.fieldOf key)).isSome := by
  have hchars := chars_clauseText key value
  have hclause : ¬ (Clause.fieldChars (clauseText key value) = [] ∨
      '\n' ∈ Clause.tailChars (clauseText key value)) := by
    rw [hchars.1, hchars.2]
    exact not_or.2 ⟨hkey.fieldChars_ne_nil, not_not.2 hline⟩
  have hread := Clause.read?_eq_ite (clauseText key value)
  rw [if_neg hclause, hchars.1] at hread
  cases h with
  | nothing hnone =>
    obtain rfl := List.mem_singleton.1 hmem
    rw [hread] at hnone
    cases hnone
  | predicate hread' hname =>
    obtain rfl := List.mem_singleton.1 hmem
    obtain rfl := Option.some.inj (hread.symm.trans hread')
    obtain rfl := hname
    rw [get?_insert, Clause.fieldOf, if_pos rfl]
    rfl

theorem isSome_get?_of_mem {params : Entries (List String)} {values : List String}
    (hkey : IsFilterKey key) (hline : OneLine key value) (hmem : (key, values) ∈ params)
    (hvalue : value ∈ values) (h : ofParams types params = .ok filter) :
    (filter.get? (Clause.fieldOf key)).isSome := by
  refine Sequencing.foldlM_reaches (P := fun filter => (filter.get? (Clause.fieldOf key)).isSome)
    ?_ hmem ?_ h
  · intro before param after hstep hset
    exact isSome_get?_of_adds (addParam_eq_ok_iff.1 hstep) hset
  · intro before after hstep
    exact isSome_get?_of_one_line hkey hvalue hline (addParam_eq_ok_iff.1 hstep)

/-- A filter with a predicate is no empty condition. -/
theorem condition_ne_none {field : String} (h : (filter.get? field).isSome) :
    condition (some filter) ≠ .ok none := by
  intro hnone
  obtain ⟨conditions, hpass, hevery⟩ := conditions_of_ok hnone
  obtain ⟨predicate, hget⟩ := Option.isSome_iff_exists.1 h
  obtain ⟨condition, hcondition, -⟩ :=
    Sequencing.exists_result hpass _ (Entries.mem_of_get? hget)
  rw [Condition.every_eq_none_iff.1 hevery] at hcondition
  cases hcondition

end Filter

namespace Descriptor

/-- There is a predicate on the field, and the filter as a whole is no empty condition. -/
def Asks (descriptor : Descriptor) (field : String) : Prop :=
  ∃ filter, descriptor.filter = some filter ∧ (filter.get? field).isSome ∧
    Filter.condition (some filter) ≠ .ok none

theorem exists_filter_of_mem {types : FieldTypes} {params : Params}
    {entry : String × List String} {given : Option Filter}
    (hmem : entry ∈ params.entries.filter fun entry => !keywords.contains entry.1)
    (h : filterOf types params = .ok given) : ∃ filter,
      Filter.ofParams types (params.entries.filter fun entry => !keywords.contains entry.1) =
        .ok filter ∧ given = some filter := by
  cases given with
  | none =>
    obtain ⟨hentry, hkept⟩ := List.mem_filter.1 hmem
    have hkeyword := filterOf_eq_none_iff.1 h entry.1 (List.mem_map_of_mem hentry)
    simp [hkeyword] at hkept
  | some filter => exact ⟨filter, ofParams_of_filterOf h, rfl⟩

theorem mem_entries_of_mem {pairs : List (String × String)} {key value : String}
    (h : (key, value) ∈ pairs) : ∃ values,
      (Params.foldKey key, values) ∈ (Params.ofPairs pairs).entries ∧
        Text.lower value ∈ values := by
  have hvalue : Text.lower value ∈ Params.valuesOf (Params.foldKey key) pairs :=
    List.mem_map.2 ⟨(key, value), List.mem_filter.2 ⟨h, by simp⟩, rfl⟩
  have hget := Params.get?_ofPairs (Params.foldKey key) pairs
  rw [if_neg (List.ne_nil_of_mem hvalue)] at hget
  exact ⟨_, Entries.mem_of_get? hget, hvalue⟩

theorem asks_of_one_line {types : FieldTypes} {pairs : List (String × String)} {key value : String}
    {descriptor : Descriptor} (hkey : IsFilterKey (Params.foldKey key))
    (hline : OneLine (Params.foldKey key) (Text.lower value)) (hmem : (key, value) ∈ pairs)
    (h : ofParams types (.ofPairs pairs) = .ok descriptor) :
    descriptor.Asks (Clause.fieldOf (Params.foldKey key)) := by
  obtain ⟨values, hentry, hvalue⟩ := mem_entries_of_mem hmem
  have hkept : (Params.foldKey key, values) ∈
      (Params.ofPairs pairs).entries.filter fun entry => !keywords.contains entry.1 :=
    List.mem_filter.2 ⟨hentry, by simp [hkey.free]⟩
  have hfilter := (ofParams_eq_ok_iff.1 h).2.2.1
  obtain ⟨filter, hread, hsome⟩ := exists_filter_of_mem hkept hfilter
  have hset := Filter.isSome_get?_of_mem hkey hline hkept hvalue hread
  exact ⟨filter, hsome, hset, Filter.condition_ne_none hset⟩

/-- A request of one parameter that goes on to another line has an empty filter. -/
theorem ofParams_of_more_lines (types : FieldTypes) {key value : String}
    (hkey : Params.foldKey key ∉ keywords)
    (hline : ¬ OneLine (Params.foldKey key) (Text.lower value)) :
    ofParams types (.ofPairs [(key, value)]) = .ok { filter := some .empty } := by
  have hparams : Params.ofPairs [(key, value)] =
      ⟨[(Params.foldKey key, [Text.lower value])]⟩ := rfl
  rw [hparams, ofParams_single types hkey, Filter.addParam_of_more_lines hline]
  rfl

/-- Every request that holds the parameter keeps what it asks exactly if the parameter stands on
one line. -/
theorem parameter_kept_iff (types : FieldTypes) {key : String} (value : String)
    (hkey : IsFilterKey (Params.foldKey key)) :
    (∀ pairs descriptor, (key, value) ∈ pairs →
      ofParams types (.ofPairs pairs) = .ok descriptor →
        descriptor.Asks (Clause.fieldOf (Params.foldKey key))) ↔
      OneLine (Params.foldKey key) value := by
  have hsmall : OneLine (Params.foldKey key) (Text.lower value) ↔
      OneLine (Params.foldKey key) value :=
    and_congr_right fun _ => not_congr (Text.mem_lower_iff (by decide))
  rw [← hsmall]
  constructor
  · intro hall
    by_contra hline
    -- already the request of this parameter alone loses it
    obtain ⟨filter, hfilter, hset, -⟩ := hall [(key, value)] _ List.mem_cons_self
      (ofParams_of_more_lines types hkey.free hline)
    obtain rfl := Option.some.inj hfilter
    cases hset
  · intro hline pairs descriptor hmem h
    exact asks_of_one_line hkey hline hmem h

def playsSinceYear : Descriptor where
  sort := some [.desc "plays"]
  filter := some (Filter.empty.insert "year" (.compare (.relation .ge) (.string "2008")))

theorem parameter_kept_year :
    IsFilterKey (Params.foldKey " Year>") ∧
      ofParams [] (.ofPairs [("sort", "-plays"), (" Year>", "2008")]) = .ok playsSinceYear ∧
      playsSinceYear.Asks "year" := by
  have hkey : IsFilterKey (Params.foldKey " Year>") := ⟨by decide, 'y', rfl, by decide⟩
  have hread : ofParams [] (.ofPairs [("sort", "-plays"), (" Year>", "2008")]) =
      .ok playsSinceYear := rfl
  exact ⟨hkey, hread, (parameter_kept_iff [] "2008" hkey).2 (by decide) _ _ (by simp) hread⟩

/-- An album over two lines is the only parameter, and all songs are selected. -/
theorem album_lost_over_lines :
    IsFilterKey (Params.foldKey "album") ∧
      ofParams [] (.ofPairs [("album", "red\nfearless")]) = .ok { filter := some .empty } ∧
      ¬ Asks { filter := some .empty } (Clause.fieldOf (Params.foldKey "album")) ∧
      Filter.condition (some .empty) = .ok none := by
  refine ⟨⟨by decide, 'a', rfl, by decide⟩, rfl, ?_, rfl⟩
  rintro ⟨filter, hfilter, hset, -⟩
  obtain rfl := Option.some.inj hfilter
  cases hset

end Descriptor

end Songbook
