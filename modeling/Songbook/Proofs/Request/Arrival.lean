import Mathlib.Data.List.Induction
import Songbook.Proofs.Request.Filters
import Songbook.Request.Descriptor

/-!
# The order of arrival

Parameters of a request may arrive in any order as long as those of one key keep theirs. Main
statement: the descriptor is the same, or the request is at fault with the same kind of fault; and
unless something was given more than once, with the same fault.
-/

namespace Songbook

inductive RequestError.Kind where
  | duplicated
  | notANumber
  | multipleValues
  | malformedQuestion
  | unsupportedOperator
  deriving DecidableEq

def RequestError.kind : RequestError → Kind
  | duplicated _ => .duplicated
  | notANumber _ => .notANumber
  | multipleValues _ => .multipleValues
  | malformedQuestion _ => .malformedQuestion
  | unsupportedOperator _ _ => .unsupportedOperator

/-- Two requests with the same outcome, except that of several fields or keys which came more than
once each may tell another. -/
def SameOutcome {α : Type} (first second : Except RequestError α) : Prop :=
  (∃ a, first = .ok a ∧ second = .ok a) ∨
    ∃ e e', first = .error e ∧ second = .error e' ∧ e.kind = e'.kind ∧
      (e.kind ≠ .multipleValues → e = e')

namespace SameOutcome

variable {α β : Type} {first second : Except RequestError α}

theorem refl (outcome : Except RequestError α) : SameOutcome outcome outcome := by
  cases outcome with
  | error e => exact .inr ⟨e, e, rfl, rfl, rfl, fun _ => rfl⟩
  | ok a => exact .inl ⟨a, rfl, rfl⟩

theorem bind {f g : α → Except RequestError β} (h : SameOutcome first second)
    (hnext : ∀ a, SameOutcome (f a) (g a)) : SameOutcome (first >>= f) (second >>= g) := by
  rcases h with ⟨a, rfl, rfl⟩ | ⟨e, e', rfl, rfl, hkind, hsame⟩
  · exact hnext a
  · exact .inr ⟨e, e', rfl, rfl, hkind, hsame⟩

theorem map (f : α → β) (h : SameOutcome first second) :
    SameOutcome (first.map f) (second.map f) := by
  rcases h with ⟨a, rfl, rfl⟩ | ⟨e, e', rfl, rfl, hkind, hsame⟩
  · exact .inl ⟨f a, rfl, rfl⟩
  · exact .inr ⟨e, e', rfl, rfl, hkind, hsame⟩

/-- Outcomes that can only fail by something given more than once need the same successes. -/
theorem of_ok_iff (hok : ∀ a, first = .ok a ↔ second = .ok a)
    (hfirst : ∀ e, first = .error e → ∃ field, e = .multipleValues field)
    (hsecond : ∀ e, second = .error e → ∃ field, e = .multipleValues field) :
    SameOutcome first second := by
  cases first with
  | ok a => exact .inl ⟨a, rfl, (hok a).1 rfl⟩
  | error e =>
    cases second with
    | ok a => cases (hok a).2 rfl
    | error e' =>
      obtain ⟨field, rfl⟩ := hfirst e rfl
      obtain ⟨name, rfl⟩ := hsecond e' rfl
      exact .inr ⟨_, _, rfl, rfl, rfl, fun hkind => absurd rfl hkind⟩

end SameOutcome

/-- The same pairs in another order, which keeps the order of those with one key. -/
structure Rearranged (pairs other : List (String × String)) : Prop where
  perm : pairs.Perm other
  kept : ∀ key, pairs.filter (fun pair => Params.foldKey pair.1 = key) =
    other.filter fun pair => Params.foldKey pair.1 = key

/-- Neighbours of different keys may change places. -/
theorem Rearranged.swap (first second : String × String)
    (hne : Params.foldKey first.1 ≠ Params.foldKey second.1) (rest : List (String × String)) :
    Rearranged (first :: second :: rest) (second :: first :: rest) := by
  constructor
  · exact .swap second first rest
  · intro key
    by_cases hfirst : Params.foldKey first.1 = key
    · have hsecond : Params.foldKey second.1 ≠ key := fun h => hne (hfirst.trans h.symm)
      simp [hfirst, hsecond]
    · simp [List.filter_cons, hfirst]

namespace Params

def valuesOf (key : String) (pairs : List (String × String)) : List String :=
  (pairs.filter fun pair => foldKey pair.1 = key).map fun pair => Text.lower pair.2

theorem ofPairs_concat (pairs : List (String × String)) (pair : String × String) :
    ofPairs (pairs ++ [pair]) = (ofPairs pairs).insert pair.1 pair.2 := by
  rw [ofPairs, List.foldl_append, ofPairs]
  rfl

theorem nodup_keys_ofPairs (pairs : List (String × String)) :
    (ofPairs pairs).entries.keys.Nodup := by
  induction pairs using List.reverseRecOn with
  | nil => exact List.nodup_nil
  | append_singleton pairs pair ih =>
    rw [ofPairs_concat]
    exact Entries.nodup_keys_alter ih _ _

theorem valuesOf_concat (key : String) (pairs : List (String × String)) (pair : String × String) :
    valuesOf key (pairs ++ [pair]) =
      if foldKey pair.1 = key then valuesOf key pairs ++ [Text.lower pair.2]
      else valuesOf key pairs := by
  by_cases hkey : foldKey pair.1 = key <;> simp [valuesOf, hkey]

theorem get?_ofPairs (key : String) (pairs : List (String × String)) :
    (ofPairs pairs).get? key =
      if valuesOf key pairs = [] then none else some (valuesOf key pairs) := by
  induction pairs using List.reverseRecOn with
  | nil => rfl
  | append_singleton pairs pair ih =>
    rw [ofPairs_concat, valuesOf_concat]
    by_cases hkey : foldKey pair.1 = key
    · subst hkey
      have hold : ((ofPairs pairs).get? (foldKey pair.1)).getD [] =
          valuesOf (foldKey pair.1) pairs := by
        rw [ih]
        split <;> simp_all
      rw [get?, insert, Entries.get?_alter_self, if_pos rfl, ← hold]
      simp [get?]
    · rw [get?, insert, Entries.get?_alter_of_ne hkey, if_neg hkey]
      exact ih

variable {pairs other : List (String × String)}

theorem get?_of_rearranged (h : Rearranged pairs other) (key : String) :
    (ofPairs pairs).get? key = (ofPairs other).get? key := by
  rw [get?_ofPairs, get?_ofPairs, valuesOf, valuesOf, h.kept key]

theorem perm_of_rearranged (h : Rearranged pairs other) :
    (ofPairs pairs).entries.Perm (ofPairs other).entries :=
  Entries.perm_of_get? (nodup_keys_ofPairs pairs) (nodup_keys_ofPairs other)
    (get?_of_rearranged h)

end Params

namespace Descriptor

variable {first second : Params}

theorem single_congr (hget : ∀ key, first.get? key = second.get? key) (keyword : String) :
    single first keyword = single second keyword := by
  rw [single, single, hget]

theorem countOf_congr (hget : ∀ key, first.get? key = second.get? key) (keyword : String) :
    countOf first keyword = countOf second keyword := by
  rw [countOf, countOf, single_congr hget]

theorem questionOf_congr (hget : ∀ key, first.get? key = second.get? key) :
    questionOf first = questionOf second := by
  rw [questionOf, questionOf, single_congr hget]

theorem sortOf_congr (hget : ∀ key, first.get? key = second.get? key) :
    sortOf first = sortOf second := by
  rw [sortOf, sortOf, hget]

theorem filterOf_sameOutcome (types : FieldTypes) (hperm : first.entries.Perm second.entries) :
    SameOutcome (filterOf types first) (filterOf types second) := by
  have hkept := hperm.filter fun entry => !keywords.contains entry.1
  unfold filterOf
  generalize first.entries.filter (fun entry => !keywords.contains entry.1) = entries at hkept
  generalize second.entries.filter (fun entry => !keywords.contains entry.1) = rearranged at hkept
  cases entries with
  | nil =>
    rw [hkept.nil_eq]
    exact .refl _
  | cons entry entries =>
    cases rearranged with
    | nil => cases hkept.eq_nil
    | cons entry' rearranged =>
      apply SameOutcome.map some
      apply SameOutcome.of_ok_iff
      · intro filter
        exact Filter.ofParams_ok_iff_of_perm hkept
      · intro e
        exact Filter.ofParams_error
      · intro e
        exact Filter.ofParams_error

/-- Parameters that rearrange others ask the same or are at fault in the same way. -/
theorem ofParams_of_rearranged {pairs other : List (String × String)}
    (h : Rearranged pairs other) (types : FieldTypes) :
    SameOutcome (ofParams types (Params.ofPairs pairs)) (ofParams types (Params.ofPairs other)) := by
  have hget := Params.get?_of_rearranged h
  have hfilter := filterOf_sameOutcome types (Params.perm_of_rearranged h)
  unfold ofParams
  rw [countOf_congr hget, countOf_congr hget, questionOf_congr hget, sortOf_congr hget]
  apply SameOutcome.bind (.refl _)
  intro limit
  apply SameOutcome.bind (.refl _)
  intro skip
  apply SameOutcome.bind hfilter
  intro filter
  exact .refl _

theorem ofParams_of_rearranged_sorts :
    Rearranged [("sort", "-year"), ("Album", "Red"), (" SORT", "song")]
        [("Album", "Red"), ("sort", "-year"), (" SORT", "song")] ∧
      SameOutcome
        (ofParams [] (Params.ofPairs [("sort", "-year"), ("Album", "Red"), (" SORT", "song")]))
        (ofParams [] (Params.ofPairs [("Album", "Red"), ("sort", "-year"), (" SORT", "song")])) := by
  have hrearranged := Rearranged.swap ("sort", "-year") ("Album", "Red") (by decide)
    [(" SORT", "song")]
  exact ⟨hrearranged, ofParams_of_rearranged hrearranged []⟩

/-- Of two fields that came more than once, the one that came first is told. -/
example :
    ofParams [] (Params.ofPairs [("year", "1"), ("album", "a"), ("year", "2"), ("album", "b")]) =
      .error (.multipleValues "year") ∧
    ofParams [] (Params.ofPairs [("album", "a"), ("year", "1"), ("year", "2"), ("album", "b")]) =
      .error (.multipleValues "album") :=
  ⟨rfl, rfl⟩

end Descriptor

end Songbook
