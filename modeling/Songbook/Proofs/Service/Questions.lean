import Songbook.Proofs.Plan.Questions
import Songbook.Proofs.Request.Parts
import Songbook.Proofs.Service.Answers

/-!
# Requests with a question

A question says by itself which songs are asked for and in which order. Main statement: a request
with a question is answered as if its filter had not been given, not even a filter that could not
be planned, and the songs as if no order had been given either.
-/

namespace Songbook

namespace Params

variable (pairs : List (String × String))

def questionAndWindow : List (String × String) :=
  keepKeys (fun key => ["question", "skip", "limit"].contains key) pairs

def underKeywords : List (String × String) :=
  keepKeys (fun key => Descriptor.keywords.contains key) pairs

/-- All that is left of a request has keys that were kept. -/
theorem mem_of_mem_keys_keepKeys {keep : String → Bool} {key : String}
    (h : key ∈ (ofPairs (keepKeys keep pairs)).entries.keys) : keep key = true := by
  rw [entries_keepKeys] at h
  obtain ⟨entry, hentry, rfl⟩ := List.mem_map.1 h
  exact (List.mem_filter.1 hentry).2

end Params

namespace Descriptor

variable {types : FieldTypes} {descriptor : Descriptor} {pairs : List (String × String)}

theorem ofParams_questionAndWindow (h : ofParams types (.ofPairs pairs) = .ok descriptor) :
    ofParams types (.ofPairs (Params.questionAndWindow pairs)) =
      .ok { descriptor with sort := none, filter := none } := by
  let keep := fun key => ["question", "skip", "limit"].contains key
  obtain ⟨hlimit, hskip, -, hquestion, -⟩ := ofParams_eq_ok_iff.1 h
  apply ofParams_eq_ok_iff.2
  refine ⟨?_, ?_, ?_, ?_, ?_⟩
  · exact (countOf_keepKeys keep pairs rfl).trans hlimit
  · exact (countOf_keepKeys keep pairs rfl).trans hskip
  · apply filterOf_eq_none_iff.2
    intro key hkey
    have hkept := Params.mem_of_mem_keys_keepKeys pairs hkey
    simp only [List.contains_eq_mem, decide_eq_true_eq, List.mem_cons, List.not_mem_nil,
      or_false] at hkept
    rcases hkept with rfl | rfl | rfl <;> decide
  · exact (questionOf_keepKeys keep pairs rfl).trans hquestion
  · exact sortOf_of_absent (Params.get?_keepKeys keep pairs "sort")

theorem ofParams_underKeywords (h : ofParams types (.ofPairs pairs) = .ok descriptor) :
    ofParams types (.ofPairs (Params.underKeywords pairs)) =
      .ok { descriptor with filter := none } := by
  let keep := fun key => keywords.contains key
  obtain ⟨hlimit, hskip, -, hquestion, hsort⟩ := ofParams_eq_ok_iff.1 h
  apply ofParams_eq_ok_iff.2
  refine ⟨?_, ?_, ?_, ?_, ?_⟩
  · exact (countOf_keepKeys keep pairs rfl).trans hlimit
  · exact (countOf_keepKeys keep pairs rfl).trans hskip
  · apply filterOf_eq_none_iff.2
    intro key hkey
    simpa using Params.mem_of_mem_keys_keepKeys pairs hkey
  · exact (questionOf_keepKeys keep pairs rfl).trans hquestion
  · exact (sortOf_keepKeys keep pairs rfl).trans hsort

end Descriptor

namespace Service

variable {descriptor : Descriptor} {question : Question} {pairs : List (String × String)}

/-- A request with a question gets the same answer, documents or fault, if what the question stands
for is left out: for songs all filters and the order, for albums all filters. -/
theorem question_overrides (service : Service)
    (h : service.describe (.ofPairs pairs) = .ok descriptor)
    (hquestion : descriptor.question = some question) :
    service.songs (.ofPairs (Params.questionAndWindow pairs)) = service.songs (.ofPairs pairs) ∧
      service.albums (.ofPairs (Params.underKeywords pairs)) = service.albums (.ofPairs pairs) := by
  have hread := describe_eq_ok_iff.1 h
  constructor
  · have hless := describe_eq_ok_iff.2 (Descriptor.ofParams_questionAndWindow hread)
    have hplan := Plan.forSongs_of_question service.catalog hquestion none none
    simp only [songs, h, hless, bind, Except.bind, hplan]
  · have hless := describe_eq_ok_iff.2 (Descriptor.ofParams_underKeywords hread)
    have hplan := Plan.forAlbums_of_question service.catalog hquestion
      service.settings.albumSumField none
    simp only [albums, h, hless, bind, Except.bind, hplan]

def mineAndRed : Service where
  store := ⟨[("taylorsongs", [[("song", .string "Mine")], [("song", .string "Red")]])]⟩

def titlesAndMore : List (String × String) :=
  [("Question", "Title"), ("explicit", ""), ("sort", "-song")]

theorem question_overrides_title :
    (∃ descriptor, mineAndRed.describe (.ofPairs titlesAndMore) = .ok descriptor ∧
      descriptor.question = some ⟨"title", none⟩ ∧
      Filter.condition descriptor.filter = .error (.unsupportedOperator "explicit" "")) ∧
    mineAndRed.songs (.ofPairs titlesAndMore) =
      .ok [[("song", .string "Mine")], [("song", .string "Red")]] ∧
    mineAndRed.albums (.ofPairs [("Question", "Title"), ("sort", "-song")]) =
      mineAndRed.albums (.ofPairs titlesAndMore) := by
  let filter := Filter.empty.insert "explicit" (.compare (.other "") (.string ""))
  have hdescribe : mineAndRed.describe (.ofPairs titlesAndMore) =
      .ok { sort := some [.desc "song"], filter := some filter,
            question := some ⟨"title", none⟩ } :=
    describe_eq_ok_iff.2 (Descriptor.ofParams_eq_ok_iff.2 ⟨rfl, rfl, rfl, rfl, rfl⟩)
  have hquestion : Params.questionAndWindow titlesAndMore = [("Question", "Title")] := by
    decide +kernel
  have hordered : Params.underKeywords titlesAndMore =
      [("Question", "Title"), ("sort", "-song")] := by
    decide +kernel
  obtain ⟨hsongs, halbums⟩ := mineAndRed.question_overrides hdescribe rfl
  rw [hquestion] at hsongs
  rw [hordered] at halbums
  refine ⟨⟨_, hdescribe, rfl, rfl⟩, ?_, halbums⟩
  rw [← hsongs]
  rfl

end Service

end Songbook
