import Mathlib.Data.List.Induction
import Songbook.Proofs.Entries
import Songbook.Proofs.Sequencing
import Songbook.Request.Filter

/-!
# Filters of parameters

The parameters of a request put their predicates into the filter one by one. Main statement: their
order has no part in whether they all can, nor in the filter they make.
-/

namespace Songbook

namespace Filter

variable {filter other : Filter} {field name : String} {predicate : Predicate}

theorem get?_place (field name : String) (predicate : Predicate) (entries : Entries Predicate) :
    (place field predicate entries).get? name =
      if field = name then some predicate else entries.get? name := by
  induction entries with
  | nil => rfl
  | cons entry rest ih =>
    obtain ⟨f, p⟩ := entry
    rw [place]
    split
    next => rfl
    next heq =>
      obtain rfl := Std.compare_eq_iff_eq.1 heq
      by_cases hname : field = name <;> simp [Entries.get?_cons, hname]
    next hgt =>
      have hne : field ≠ f := by
        intro heq
        rw [Std.compare_eq_iff_eq.2 heq] at hgt
        cases hgt
      rw [Entries.get?_cons, ih, Entries.get?_cons]
      by_cases hname : field = name
      · have hf : f ≠ name := fun h => hne (hname.trans h.symm)
        rw [if_neg hf, if_pos hname, if_pos hname]
      · rw [if_neg hname, if_neg hname]

theorem get?_insert (field name : String) (predicate : Predicate) (filter : Filter) :
    (filter.insert field predicate).get? name =
      if field = name then some predicate else filter.get? name :=
  get?_place field name predicate filter.entries

theorem nodup_keys (filter : Filter) : filter.entries.keys.Nodup := by
  apply List.pairwise_map.2
  apply filter.sorted.imp
  intro a b hlt heq
  rw [Std.compare_eq_iff_eq.2 heq] at hlt
  cases hlt

/-- A filter is determined by the predicates on the fields. -/
theorem ext_get? (h : ∀ field, filter.get? field = other.get? field) : filter = other := by
  have hperm := Entries.perm_of_get? filter.nodup_keys other.nodup_keys h
  have hsame : filter.entries = other.entries := by
    apply List.Perm.eq_of_pairwise _ filter.sorted other.sorted hperm
    intro a b _ _ hab hba
    rw [← Std.OrientedCmp.gt_iff_lt, hab] at hba
    cases hba
  cases filter
  cases other
  cases hsame
  rfl

theorem insert_comm (hne : field ≠ name) (predicate more : Predicate) (filter : Filter) :
    (filter.insert field predicate).insert name more =
      (filter.insert name more).insert field predicate := by
  apply ext_get?
  intro asked
  rw [get?_insert, get?_insert, get?_insert, get?_insert]
  by_cases hname : name = asked
  · have hfield : field ≠ asked := hname ▸ hne
    rw [if_pos hname, if_neg hfield, if_pos hname]
  · rw [if_neg hname, if_neg hname]

/-- What one parameter can do to a filter: nothing if it names no field, or put a predicate on a
field that has none. -/
inductive Adds (types : FieldTypes) (filter : Filter) : String × List String → Filter → Prop
  | nothing {key value : String} (hread : Clause.read? (clauseText key value) = none) :
    Adds types filter (key, [value]) filter
  | predicate {key value field : String} {clause : Clause}
    (hread : Clause.read? (clauseText key value) = some clause)
    (hfield : Text.trim clause.field = field) (hfree : filter.get? field = none) :
    Adds types filter (key, [value]) (filter.insert field (clause.predicate types field))

variable {types : FieldTypes} {param : String × List String}

theorem addParam_of_adds (h : Adds types filter param other) :
    addParam types filter param = .ok other := by
  cases h with
  | nothing hread => simp [addParam, hread]
  | predicate hread hfield hfree =>
    subst hfield
    simp [addParam, hread, hfree]

/-- A parameter that adds nothing and no predicate is at fault: a field or a key came twice. -/
theorem addParam_cases (types : FieldTypes) (filter : Filter) (param : String × List String) :
    (∃ other, Adds types filter param other) ∨
      ∃ field, addParam types filter param = .error (.multipleValues field) := by
  obtain ⟨key, values⟩ := param
  match values with
  | [value] =>
    cases hread : Clause.read? (clauseText key value) with
    | none => exact .inl ⟨filter, .nothing hread⟩
    | some clause =>
      cases hfree : filter.get? (Text.trim clause.field) with
      | none => exact .inl ⟨_, .predicate hread rfl hfree⟩
      | some taken =>
        right
        exact ⟨Text.trim clause.field, by simp [addParam, hread, hfree]⟩
  | [] => exact .inr ⟨key, rfl⟩
  | _ :: _ :: _ => exact .inr ⟨key, rfl⟩

theorem addParam_eq_ok_iff :
    addParam types filter param = .ok other ↔ Adds types filter param other := by
  refine ⟨fun h => ?_, addParam_of_adds⟩
  rcases addParam_cases types filter param with ⟨next, hnext⟩ | ⟨field, hfault⟩
  · rw [addParam_of_adds hnext] at h
    exact Except.ok.inj h ▸ hnext
  · rw [hfault] at h
    cases h

theorem addParam_error {e : RequestError} (h : addParam types filter param = .error e) :
    ∃ field, e = .multipleValues field := by
  rcases addParam_cases types filter param with ⟨next, hnext⟩ | ⟨field, hfault⟩
  · rw [addParam_of_adds hnext] at h
    cases h
  · rw [hfault] at h
    exact ⟨field, (Except.error.inj h).symm⟩

/-- Two parameters that add to a filter one after the other may change places. -/
theorem Adds.exchange {next last : Filter} {first second : String × List String}
    (hfirst : Adds types filter first next) (hsecond : Adds types next second last) :
    ∃ between, Adds types filter second between ∧ Adds types between first last := by
  cases hfirst with
  | nothing hread => exact ⟨last, hsecond, .nothing hread⟩
  | @predicate key value field clause hread hfield hfree =>
    cases hsecond with
    | nothing hread' => exact ⟨filter, .nothing hread', .predicate hread hfield hfree⟩
    | @predicate key' value' name clause' hread' hname hfree' =>
      rw [get?_insert] at hfree'
      have hne : field ≠ name := by
        intro heq
        rw [if_pos heq] at hfree'
        cases hfree'
      rw [if_neg hne] at hfree'
      have hstill : (filter.insert name (clause'.predicate types name)).get? field = none := by
        rw [get?_insert, if_neg hne.symm, hfree]
      refine ⟨_, .predicate hread' hname hfree', ?_⟩
      rw [insert_comm hne]
      exact .predicate hread hfield hstill

theorem addParam_commutes : Sequencing.Commutes (addParam types) := by
  intro filter next last first second hfirst hsecond
  obtain ⟨between, hsecond', hfirst'⟩ :=
    (addParam_eq_ok_iff.1 hfirst).exchange (addParam_eq_ok_iff.1 hsecond)
  exact ⟨between, addParam_eq_ok_iff.2 hsecond', addParam_eq_ok_iff.2 hfirst'⟩

theorem ofParams_ok_iff_of_perm {params rearranged : Entries (List String)}
    (h : params.Perm rearranged) :
    ofParams types params = .ok filter ↔ ofParams types rearranged = .ok filter :=
  ⟨Sequencing.foldlM_ok_of_perm addParam_commutes h,
    Sequencing.foldlM_ok_of_perm addParam_commutes h.symm⟩

/-- Every predicate of a filter was asked by a parameter. -/
theorem exists_param_of_mem {params : Entries (List String)}
    (h : ofParams types params = .ok filter) (hmem : (field, predicate) ∈ filter.entries) :
    ∃ key value clause, (key, [value]) ∈ params ∧
      Clause.read? (clauseText key value) = some clause ∧ Text.trim clause.field = field ∧
      clause.predicate types field = predicate := by
  rw [Entries.mem_iff_get? filter.nodup_keys] at hmem
  induction params using List.reverseRecOn generalizing filter with
  | nil =>
    obtain rfl := Except.ok.inj h
    cases hmem
  | append_singleton params param ih =>
    rw [ofParams, List.foldlM_append, Sequencing.bind_eq_ok_iff] at h
    obtain ⟨before, hbefore, hlast⟩ := h
    obtain ⟨last, hadd, hend⟩ := Sequencing.foldlM_cons_eq_ok_iff.1 hlast
    obtain rfl : last = filter := Except.ok.inj hend
    have hearlier : before.get? field = some predicate → ∃ key value clause,
        (key, [value]) ∈ params ++ [param] ∧ Clause.read? (clauseText key value) = some clause ∧
          Text.trim clause.field = field ∧ clause.predicate types field = predicate := by
      intro hget
      obtain ⟨key, value, clause, hparam, hclause⟩ := ih hbefore hget
      exact ⟨key, value, clause, List.mem_append_left _ hparam, hclause⟩
    cases addParam_eq_ok_iff.1 hadd with
    | nothing => exact hearlier hmem
    | @predicate key value name clause hread hname =>
      change (before.insert name (clause.predicate types name)).get? field = _ at hmem
      rw [get?_insert] at hmem
      by_cases heq : name = field
      · subst heq
        rw [if_pos rfl, Option.some.injEq] at hmem
        exact ⟨key, value, clause, by simp, hread, hname, hmem⟩
      · rw [if_neg heq] at hmem
        exact hearlier hmem

theorem ofParams_error {params : Entries (List String)} {e : RequestError}
    (h : ofParams types params = .error e) : ∃ field, e = .multipleValues field := by
  obtain ⟨filter, param, -, hfault⟩ := Sequencing.exists_failing_step h
  exact addParam_error hfault

end Filter

end Songbook
