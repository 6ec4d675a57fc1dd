import Songbook.Catalog
import Songbook.Proofs.Entries
import Songbook.Proofs.Store.Sorted

/-!
# Registered questions

A catalog is made by registering questions one after the other. Main statements: it has under a name
what was registered last under a spelling of the name, and its names are increasing.
-/

namespace Songbook

namespace Catalog

variable {catalog : Catalog} {name key : String}

theorem mem_names_iff : name ∈ catalog.names ↔ name ∈ catalog.questions.keys :=
  (Sorting.stableSort_perm _ _).mem_iff

theorem lookup_eq_error_iff {param : Option String} {e : QueryError} :
    catalog.lookup name param = .error e ↔ name ∉ catalog.names ∧ e = .unknownQuestion name := by
  rw [mem_names_iff, ← Entries.get?_eq_none_iff, lookup]
  cases catalog.questions.get? name with
  | none => simp [eq_comm]
  | some question => simp

/-- The order of names never has two level, so names in order are increasing if none comes twice. -/
theorem names_increasing (hkeys : catalog.questions.keys.Nodup) :
    catalog.names.Pairwise (· < ·) := by
  have hordered : catalog.names.Pairwise fun a b => (compare a b).isLE = true :=
    (Sorting.Preordered.of_rank (fun name : String => name) catalog.questions.keys).sorted
  have hdistinct : catalog.names.Nodup := (Sorting.stableSort_perm _ _).nodup_iff.2 hkeys
  refine (hordered.and hdistinct).imp fun {a b} hab => ?_
  rcases Ordering.isLE_iff_eq_lt_or_eq_eq.1 hab.1 with hlt | heq
  · exact compareOfLessAndEq_eq_lt.1 hlt
  · exact absurd (Std.compare_eq_iff_eq.1 heq) hab.2

abbrev Registration := String × (Option String → Recipe)

def ofRegistrations (registrations : List Registration) : Catalog :=
  registrations.foldl (fun catalog given => catalog.register given.1 given.2) {}

/-- No later registration is under a spelling of the name. -/
def IsLatest (registrations : List Registration) (key : String)
    (question : Option String → Recipe) : Prop :=
  ∃ earlier spelling later, registrations = earlier ++ (spelling, question) :: later ∧
    Text.lower spelling = key ∧ ∀ registration ∈ later, Text.lower registration.1 ≠ key

variable {registrations : List Registration} {registration : Registration}
  {question : Option String → Recipe}

theorem ofRegistrations_concat (registrations : List Registration) (registration : Registration) :
    ofRegistrations (registrations ++ [registration]) =
      (ofRegistrations registrations).register registration.1 registration.2 := by
  rw [ofRegistrations, List.foldl_append, ofRegistrations]
  rfl

theorem questions_ofRegistrations (registrations : List Registration) :
    (ofRegistrations registrations).questions =
      Entries.ofList (registrations.map fun registration =>
        (Text.lower registration.1, registration.2)) := by
  induction registrations using List.reverseRecOn with
  | nil => rfl
  | append_singleton registrations registration ih =>
    rw [ofRegistrations_concat, register, ih, List.map_append, List.map_singleton,
      Entries.ofList_concat]

theorem get?_ofRegistrations_eq_some_iff :
    (ofRegistrations registrations).questions.get? key = some question ↔
      IsLatest registrations key question := by
  rw [questions_ofRegistrations, Entries.get?_ofList_map_eq_some_iff]
  constructor
  · rintro ⟨earlier, ⟨spelling, _⟩, later, hsplit, ⟨hspelling, rfl⟩, hlater⟩
    exact ⟨earlier, spelling, later, hsplit, hspelling, hlater⟩
  · rintro ⟨earlier, spelling, later, hsplit, hspelling, hlater⟩
    exact ⟨earlier, (spelling, question), later, hsplit, ⟨hspelling, rfl⟩, hlater⟩

theorem mem_names_ofRegistrations_iff : name ∈ (ofRegistrations registrations).names ↔
    ∃ registration ∈ registrations, Text.lower registration.1 = name := by
  rw [mem_names_iff, questions_ofRegistrations, Entries.mem_keys_ofList, List.map_map, List.mem_map]
  rfl

theorem names_ofRegistrations_increasing (registrations : List Registration) :
    (ofRegistrations registrations).names.Pairwise (· < ·) := by
  apply names_increasing
  rw [questions_ofRegistrations]
  exact Entries.nodup_keys_ofList _

theorem lookup_of_isLatest (h : IsLatest registrations key question) (param : Option String) :
    (ofRegistrations registrations).lookup key param = .ok (question param) := by
  rw [lookup, get?_ofRegistrations_eq_some_iff.2 h]

theorem lookup_unregistered_iff {param : Option String} :
    (ofRegistrations registrations).lookup key param = .error (.unknownQuestion key) ↔
      ∀ registration ∈ registrations, Text.lower registration.1 ≠ key := by
  rw [lookup_eq_error_iff, mem_names_ofRegistrations_iff]
  simp

theorem exists_latest_iff : (∃ question, IsLatest registrations key question) ↔
    ∃ registration ∈ registrations, Text.lower registration.1 = key := by
  simp only [← get?_ofRegistrations_eq_some_iff, ← mem_names_ofRegistrations_iff, mem_names_iff,
    ← Option.ne_none_iff_exists', ne_eq, Entries.get?_eq_none_iff, not_not]

/-- The questions that every deployment has. -/
theorem builtin_eq : builtin = ofRegistrations [("title", title), ("trending", trending)] := rfl

theorem lookup_title (param : Option String) :
    builtin.lookup "title" param = .ok (title param) := by
  have hlatest : IsLatest [("title", title), ("trending", trending)] "title" title :=
    ⟨[], "title", [("trending", trending)], rfl, by decide, by simp; decide⟩
  rw [builtin_eq, lookup_of_isLatest hlatest]

theorem lookup_trending (param : Option String) :
    builtin.lookup "trending" param = .ok (trending param) := by
  have hlatest : IsLatest [("title", title), ("trending", trending)] "trending" trending :=
    ⟨[("title", title)], "trending", [], rfl, by decide, by simp⟩
  rw [builtin_eq, lookup_of_isLatest hlatest]

end Catalog

end Songbook
