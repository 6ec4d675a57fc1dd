import Songbook.Proofs.Request.Arrival

/-!
# Parts of a descriptor

Each part of a descriptor is read from keys of its own. Main statement: a request that leaves out
pairs by their keys keeps every part whose keys it keeps.
-/

namespace Songbook

namespace Params

def keepKeys (keep : String → Bool) (pairs : List (String × String)) : List (String × String) :=
  pairs.filter fun pair => keep (foldKey pair.1)

variable (keep : String → Bool) (pairs : List (String × String))

theorem entries_keepKeys : (ofPairs (keepKeys keep pairs)).entries =
    (ofPairs pairs).entries.filter fun entry => keep entry.1 := by
  induction pairs using List.reverseRecOn with
  | nil => rfl
  | append_singleton pairs pair ih =>
    have hinsert := Entries.filter_alter keep (foldKey pair.1)
      (fun values => values.getD [] ++ [Text.lower pair.2]) (ofPairs pairs).entries
    rw [keepKeys] at ih
    rw [keepKeys, List.filter_append, ofPairs_concat, insert, hinsert, ← ih]
    cases hkeep : keep (foldKey pair.1) with
    | true =>
      have hlast : [pair].filter (fun pair => keep (foldKey pair.1)) = [pair] := by simp [hkeep]
      rw [hlast, ofPairs_concat]
      rfl
    | false => simp [hkeep]

theorem get?_keepKeys (key : String) : (ofPairs (keepKeys keep pairs)).get? key =
    if keep key then (ofPairs pairs).get? key else none := by
  rw [get?, entries_keepKeys, Entries.get?_filter, get?]

def withoutKey (key : String) (pairs : List (String × String)) : List (String × String) :=
  keepKeys (· != key) pairs

theorem get?_withoutKey_self (key : String) : (ofPairs (withoutKey key pairs)).get? key = none := by
  rw [withoutKey, get?_keepKeys, if_neg (by simp)]

end Params

namespace Descriptor

variable {types : FieldTypes} {params : Params} {descriptor : Descriptor}

theorem ofParams_eq_ok_iff : ofParams types params = .ok descriptor ↔
    countOf params "limit" = .ok descriptor.limit ∧ countOf params "skip" = .ok descriptor.skip ∧
      filterOf types params = .ok descriptor.filter ∧
      questionOf params = .ok descriptor.question ∧ sortOf params = descriptor.sort := by
  unfold ofParams
  simp only [Sequencing.bind_eq_ok_iff, pure, Except.pure, Except.ok.injEq]
  constructor
  · rintro ⟨limit, hlimit, skip, hskip, filter, hfilter, question, hquestion, rfl⟩
    exact ⟨hlimit, hskip, hfilter, hquestion, rfl⟩
  · rintro ⟨hlimit, hskip, hfilter, hquestion, hsort⟩
    refine ⟨_, hlimit, _, hskip, _, hfilter, _, hquestion, ?_⟩
    rw [hsort]

theorem countOf_of_absent {keyword : String} (h : params.get? keyword = none) :
    countOf params keyword = .ok none := by
  rw [countOf, single, h]
  rfl

theorem countOf_of_single {keyword raw : String} (h : params.get? keyword = some [raw]) :
    countOf params keyword = readCount keyword raw := by
  rw [countOf, single, h]
  rfl

theorem sortOf_of_absent (h : params.get? "sort" = none) : sortOf params = none := by
  rw [sortOf, h]
  rfl

theorem sortOf_eq_none_iff :
    sortOf params = none ↔ SortKey.ofValues ((params.get? "sort").getD []) = [] := by
  rw [sortOf]
  cases SortKey.ofValues ((params.get? "sort").getD []) <;> simp

theorem sortOf_eq_some_iff {order : List SortKey} : sortOf params = some order ↔
    SortKey.ofValues ((params.get? "sort").getD []) ≠ [] ∧
      SortKey.ofValues ((params.get? "sort").getD []) = order := by
  rw [sortOf]
  cases SortKey.ofValues ((params.get? "sort").getD []) <;> simp

theorem questionOf_of_absent (h : params.get? "question" = none) :
    questionOf params = .ok none := by
  rw [questionOf, single, h]
  rfl

/-- There is no filter exactly if every key is a keyword. -/
theorem filterOf_eq_none_iff :
    filterOf types params = .ok none ↔ ∀ key ∈ params.entries.keys, key ∈ keywords := by
  have hkept : (params.entries.filter fun entry => !keywords.contains entry.1) = [] ↔
      ∀ key ∈ params.entries.keys, key ∈ keywords := by
    simp [List.filter_eq_nil_iff, Entries.keys]
  rw [← hkept, filterOf]
  cases params.entries.filter fun entry => !keywords.contains entry.1 with
  | nil => simp
  | cons entry entries =>
    simp only [reduceCtorEq, iff_false]
    cases Filter.ofParams types (entry :: entries) <;> simp [Except.map]

theorem ofParams_of_filterOf {filter : Filter} (h : filterOf types params = .ok (some filter)) :
    Filter.ofParams types (params.entries.filter fun entry => !keywords.contains entry.1) =
      .ok filter := by
  unfold filterOf at h
  split at h
  · cases h
  · cases hread : Filter.ofParams types
        (params.entries.filter fun entry => !keywords.contains entry.1) with
    | error e =>
      rw [hread] at h
      cases h
    | ok made =>
      rw [hread] at h
      rw [Option.some.inj (Except.ok.inj h)]

/-- Every predicate of the filter was asked by a parameter. -/
theorem exists_param_of_filterOf {filter : Filter} {field : String} {predicate : Predicate}
    (h : filterOf types params = .ok (some filter)) (hmem : (field, predicate) ∈ filter.entries) :
    ∃ key value clause, (key, [value]) ∈ params.entries ∧
      Clause.read? (Filter.clauseText key value) = some clause ∧ Text.trim clause.field = field ∧
      clause.predicate types field = predicate := by
  obtain ⟨key, value, clause, hparam, hclause⟩ :=
    Filter.exists_param_of_mem (ofParams_of_filterOf h) hmem
  exact ⟨key, value, clause, List.mem_of_mem_filter hparam, hclause⟩

section Keeping

variable (keep : String → Bool) (pairs : List (String × String))

theorem filterOf_keepKeys (h : ∀ key, key ∉ keywords → keep key = true) (types : FieldTypes) :
    filterOf types (.ofPairs (Params.keepKeys keep pairs)) = filterOf types (.ofPairs pairs) := by
  have hkept : (Params.ofPairs (Params.keepKeys keep pairs)).entries.filter
      (fun entry => !keywords.contains entry.1) =
        (Params.ofPairs pairs).entries.filter fun entry => !keywords.contains entry.1 := by
    rw [Params.entries_keepKeys, List.filter_filter]
    apply List.filter_congr
    rintro ⟨key, values⟩ -
    by_cases hkey : key ∈ keywords
    · simp [hkey]
    · simp [hkey, h key hkey]
  rw [filterOf, hkept, filterOf]

theorem questionOf_keepKeys (h : keep "question" = true) :
    questionOf (.ofPairs (Params.keepKeys keep pairs)) = questionOf (.ofPairs pairs) := by
  rw [questionOf, single, Params.get?_keepKeys, if_pos h, questionOf, single]

theorem sortOf_keepKeys (h : keep "sort" = true) :
    sortOf (.ofPairs (Params.keepKeys keep pairs)) = sortOf (.ofPairs pairs) := by
  rw [sortOf, Params.get?_keepKeys, if_pos h, sortOf]

theorem countOf_keepKeys {keyword : String} (h : keep keyword = true) :
    countOf (.ofPairs (Params.keepKeys keep pairs)) keyword =
      countOf (.ofPairs pairs) keyword := by
  rw [countOf, single, Params.get?_keepKeys, if_pos h, countOf, single]

end Keeping

section Apart

variable (types : FieldTypes) (pairs : List (String × String)) {keyword other : String}

theorem filterOf_withoutKey (h : keyword ∈ keywords) :
    filterOf types (.ofPairs (Params.withoutKey keyword pairs)) =
      filterOf types (.ofPairs pairs) := by
  apply filterOf_keepKeys
  intro key hkey
  rw [bne_iff_ne]
  rintro rfl
  exact hkey h

theorem countOf_withoutKey (h : other ≠ keyword) :
    countOf (.ofPairs (Params.withoutKey keyword pairs)) other =
      countOf (.ofPairs pairs) other :=
  countOf_keepKeys _ pairs (bne_iff_ne.2 h)

/-- The order has no part in whether a request is at fault, nor in what else it asks. -/
theorem ofParams_sort_apart : ofParams types (.ofPairs pairs) =
    (ofParams types (.ofPairs (Params.withoutKey "sort" pairs))).map fun rest =>
      { rest with sort := sortOf (.ofPairs pairs) } := by
  have hquestion : questionOf (.ofPairs (Params.withoutKey "sort" pairs)) =
      questionOf (.ofPairs pairs) := questionOf_keepKeys _ pairs (by decide)
  rw [ofParams, ofParams, countOf_withoutKey pairs (by decide), countOf_withoutKey pairs (by decide),
    filterOf_withoutKey types pairs (by decide), hquestion]
  change _ = Functor.map _ _
  simp only [map_bind, map_pure]

/-- The question is read last, when all else is known. -/
theorem ofParams_question_last : ofParams types (.ofPairs pairs) =
    ofParams types (.ofPairs (Params.withoutKey "question" pairs)) >>= fun rest =>
      (questionOf (.ofPairs pairs)).map fun question => { rest with question } := by
  have hsort : sortOf (.ofPairs (Params.withoutKey "question" pairs)) = sortOf (.ofPairs pairs) :=
    sortOf_keepKeys _ pairs (by decide)
  have hnone : questionOf (.ofPairs (Params.withoutKey "question" pairs)) = pure none :=
    questionOf_of_absent (Params.get?_withoutKey_self pairs "question")
  rw [ofParams, ofParams, countOf_withoutKey pairs (by decide), countOf_withoutKey pairs (by decide),
    filterOf_withoutKey types pairs (by decide), hsort, hnone]
  change _ = bind _ fun rest => Functor.map _ _
  simp only [bind_assoc, pure_bind, map_eq_pure_bind]

end Apart

end Descriptor

end Songbook
