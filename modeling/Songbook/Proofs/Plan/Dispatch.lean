import Songbook.Plan
import Songbook.Proofs.Catalog
import Songbook.Proofs.Request.WellFormed

/-!
# Questions and registrations

The name of a question is lower-cased within the whole text of the question, and a registered name
by itself. Main statement: both come to the same, so a question is answered by what was registered
last under a spelling of its name.
-/

namespace Songbook

variable {question : Question} {recipe : Recipe}

namespace Question

def lower (question : Question) : Question :=
  ⟨Text.lower question.name, question.param.map Text.lower⟩

theorem WellFormed.ofParams_write (h : question.WellFormed) (types : FieldTypes) :
    Descriptor.ofParams types (.ofPairs [("question", question.write)]) =
      .ok { question := some question.lower } := by
  obtain ⟨name, param⟩ := question
  cases param with
  | none => exact Descriptor.ofParams_name types h.named h.parted
  | some param => exact Descriptor.ofParams_writable types h.named h.parted (h.writable param rfl)

end Question

namespace Plan

def ofRecipe : Recipe → Plan
  | .search filter sort => .search { filter, sort }
  | .pipeline stages => .pipeline stages

theorem forSongs_of_lookup {catalog : Catalog}
    (h : catalog.lookup question.name question.param = .ok recipe) :
    forSongs catalog { question := some question } = .ok (ofRecipe recipe) := by
  simp only [forSongs, h]
  cases recipe with
  | search filter sort => rfl
  | pipeline stages =>
    exact congrArg (fun stages => Except.ok (pipeline stages)) (List.append_nil stages)

theorem forSongs_of_lookup_error {catalog : Catalog} {e : QueryError}
    (h : catalog.lookup question.name question.param = .error e) :
    forSongs catalog { question := some question } = .error e := by
  simp only [forSongs, h]
  rfl

end Plan

namespace Catalog

/-- A request for a question is planned with what was registered last under a spelling of its name,
given the parameter in small letters; it is refused exactly if no spelling was registered. The names
of the catalog are those registered, in small letters, each once and in increasing order. -/
theorem dispatches_to_latest (registrations : List Registration) (types : FieldTypes)
    {question : Question} (h : question.WellFormed) :
    ∃ descriptor,
      Descriptor.ofParams types (.ofPairs [("question", question.write)]) = .ok descriptor ∧
      (∀ answer, IsLatest registrations (Text.lower question.name) answer →
        Plan.forSongs (ofRegistrations registrations) descriptor =
          .ok (Plan.ofRecipe (answer (question.param.map Text.lower)))) ∧
      ((∃ answer, IsLatest registrations (Text.lower question.name) answer) ↔
        ∃ registration ∈ registrations, Text.lower registration.1 = Text.lower question.name) ∧
      (Plan.forSongs (ofRegistrations registrations) descriptor =
          .error (.unknownQuestion (Text.lower question.name)) ↔
        ∀ registration ∈ registrations, Text.lower registration.1 ≠ Text.lower question.name) ∧
      (ofRegistrations registrations).names.Pairwise (· < ·) ∧
      ∀ name, name ∈ (ofRegistrations registrations).names ↔
        ∃ registration ∈ registrations, Text.lower registration.1 = name := by
  have hanswered : ∀ answer, IsLatest registrations (Text.lower question.name) answer →
      Plan.forSongs (ofRegistrations registrations) { question := some question.lower } =
        .ok (Plan.ofRecipe (answer (question.param.map Text.lower))) := by
    intro answer hlatest
    exact Plan.forSongs_of_lookup (lookup_of_isLatest hlatest question.lower.param)
  refine ⟨{ question := some question.lower }, h.ofParams_write types, hanswered,
    exists_latest_iff, ?_, names_ofRegistrations_increasing registrations,
    fun name => mem_names_ofRegistrations_iff⟩
  constructor
  · intro hrefused registration hmem heq
    obtain ⟨answer, hlatest⟩ := exists_latest_iff.2 ⟨registration, hmem, heq⟩
    rw [hanswered answer hlatest] at hrefused
    cases hrefused
  · intro hnone
    have hlookup : (ofRegistrations registrations).lookup question.lower.name
        question.lower.param = .error (.unknownQuestion (Text.lower question.name)) :=
      lookup_unregistered_iff.2 hnone
    exact Plan.forSongs_of_lookup_error hlookup

def sigmaRegistrations : List Registration := [
  ("ΟΔΟΣ", title), ("Newest", fun _ => .search none [.desc "year"]),
  ("οδοΣ", fun param => .search (some (.startsWith "album" (param.getD ""))) [])]

theorem dispatches_to_latest_sigma :
    Question.WellFormed ⟨"Οδος", some "RED"⟩ ∧
      ∃ descriptor,
        Descriptor.ofParams [] (.ofPairs [("question", "Οδος(RED)")]) = .ok descriptor ∧
        Plan.forSongs (ofRegistrations sigmaRegistrations) descriptor =
          .ok (.search { filter := some (.startsWith "album" "red") }) := by
  have hquestion : Question.WellFormed ⟨"Οδος", some "RED"⟩ := by
    refine ⟨by decide, by decide, fun param hparam => ?_⟩
    obtain rfl := Option.some.inj hparam
    exact ⟨by decide, by decide⟩
  obtain ⟨descriptor, hread, hanswered, -⟩ :=
    dispatches_to_latest sigmaRegistrations [] hquestion
  refine ⟨hquestion, descriptor, hread, ?_⟩
  have hlatest : IsLatest sigmaRegistrations (Text.lower "Οδος")
      fun param => .search (some (.startsWith "album" (param.getD ""))) [] :=
    ⟨sigmaRegistrations.take 2, "οδοΣ", [], rfl, by decide +kernel, by simp⟩
  have hred : Text.lower "RED" = "red" := by decide
  rw [hanswered _ hlatest, Option.map_some, hred]
  rfl

end Catalog

end Songbook
