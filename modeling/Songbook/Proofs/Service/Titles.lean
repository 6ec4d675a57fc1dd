import Songbook.Proofs.Catalog
import Songbook.Proofs.Request.Questions
import Songbook.Proofs.Service.Answers
import Songbook.Proofs.Store.Matching
import Songbook.Proofs.Text.Beginnings
import Songbook.Proofs.Value.Paths

/-!
# Songs by the beginnings of their titles

A request may ask for the songs whose titles begin with a text. Main statement: such a request finds
every title that literally begins with the text exactly if the text can be written in a question and
does not end in a sigma inside a word of the title.
-/

namespace Songbook

def Document.Holds (doc : Document) (field text : String) : Prop :=
  Value.string text ∈ itemsOf (doc.get? field)

def Document.single (field text : String) : Document :=
  [(field, .string text)]

theorem Document.single_holds (field text : String) : (single field text).Holds field text := by
  simp [Holds, single, Entries.get?, itemsOf, Value.items]

namespace Condition

variable {collation : Collation} {field start text : String}

theorem holds_startsWith_of_prefix {doc : Document} (hpoint : '.' ∉ field.toList)
    (hbegins : (Text.lower start).toList <+: (Text.lower text).toList)
    (hdoc : doc.Holds field text) : (startsWith field start).holds collation doc = true := by
  apply holds_startsWith_iff.2
  rw [Document.find?_of_not_mem hpoint]
  exact ⟨text, hdoc, hbegins⟩

theorem prefix_of_holds_single (hpoint : '.' ∉ field.toList)
    (h : (startsWith field start).holds collation (.single field text) = true) :
    (Text.lower start).toList <+: (Text.lower text).toList := by
  obtain ⟨s, hs, hbegins⟩ := holds_startsWith_iff.1 h
  rw [Document.find?_of_not_mem hpoint] at hs
  obtain rfl : s = text := by
    simpa [Document.single, Entries.get?, itemsOf, Value.items] using hs
  exact hbegins

/-- Every document that holds a text with the given beginning is selected unless the beginning ends
in a sigma inside a word. -/
theorem startsWith_finds_iff (hpoint : '.' ∉ field.toList) (start rest : String) :
    (∀ collation (doc : Document), doc.Holds field (start ++ rest) →
        (startsWith field start).holds collation doc = true) ↔
      ¬ Text.SplitsAtSigma start rest := by
  rw [← Text.lower_prefix_iff]
  constructor
  · intro h
    apply prefix_of_holds_single hpoint
    exact h .simple _ (Document.single_holds field (start ++ rest))
  · intro hbegins collation doc hdoc
    exact holds_startsWith_of_prefix hpoint hbegins hdoc

end Condition

namespace Service

variable {service : Service} {stored : List Document} {start rest : String}

def titleRequest (start : String) : List (String × String) :=
  [("question", "title(" ++ start ++ ")")]

theorem titleRequest_eq (start : String) :
    titleRequest start = [("question", Question.write ⟨"title", some start⟩)] := by
  have hopen : "title(" = "title" ++ "(" := by decide
  rw [titleRequest, hopen, Question.write]

/-- The songs are those that the lower-cased beginning selects, as they are stored. -/
theorem songs_of_title (hcatalog : service.catalog = .builtin)
    (hstored : service.store.collections.get? service.settings.collection = some stored)
    (hstart : Question.Writable start) :
    service.songs (Params.ofPairs (titleRequest start)) =
      .ok (stored.filter ((Condition.startsWith "song" (Text.lower start)).holds collation)) := by
  let descriptor : Descriptor := { question := some ⟨"title", some (Text.lower start)⟩ }
  have hlookup := Catalog.lookup_title (some (Text.lower start))
  have hdescribe : service.describe (Params.ofPairs (titleRequest start)) = .ok descriptor := by
    have htitle : Text.lower "title" = "title" := by decide
    rw [describe, titleRequest_eq, Descriptor.ofParams_writable _ (by decide) (by decide) hstart,
      htitle]
    rfl
  have hselected : service.selected descriptor =
      .ok (stored.filter ((Condition.startsWith "song" (Text.lower start)).holds collation)) := by
    have hstages : Plan.songStages service.catalog descriptor =
        .ok [.select (.startsWith "song" (Text.lower start))] := by
      rw [hcatalog]
      simp only [Plan.songStages, descriptor, hlookup, Catalog.title]
      rfl
    rw [selected, hstages]
    simp only [bind, Except.bind, answerPlan, Store.aggregate, Store.collection, hstored]
    rfl
  have horder : service.songOrder descriptor = [] := by
    simp only [songOrder, descriptor, hcatalog, hlookup, Catalog.title]
  rw [songs_of_describe hdescribe, hselected, horder]
  simp only [Except.map, descriptor, sortDocuments_nil, window_none_none]

theorem songs_of_unwritable (service : Service) (hstart : ¬ Question.Writable start) :
    ∃ fault, service.songs (Params.ofPairs (titleRequest start)) = .error fault := by
  have hdescribe : ∃ fault, service.describe (Params.ofPairs (titleRequest start)) =
      .error fault := by
    rw [describe, titleRequest_eq, Descriptor.ofParams_unwritable _ (by decide) hstart]
    exact ⟨_, rfl⟩
  obtain ⟨fault, hfault⟩ := hdescribe
  exact ⟨fault, (answers_of_fault hfault).1⟩

/-- The request for the titles with a beginning finds, in every service with the built-in questions
whose collection exists, all the documents whose title is the beginning and the rest. -/
def FindsTitles (start rest : String) : Prop :=
  ∀ (service : Service) (stored : List Document), service.catalog = .builtin →
    service.store.collections.get? service.settings.collection = some stored →
    ∃ found, service.songs (Params.ofPairs (titleRequest start)) = .ok found ∧
      ∀ doc ∈ stored, doc.Holds "song" (start ++ rest) → doc ∈ found

theorem findsTitles_iff (start rest : String) :
    FindsTitles start rest ↔ Question.Writable start ∧ ¬ Text.SplitsAtSigma start rest := by
  have hpoint : '.' ∉ "song".toList := by decide
  rw [← Text.lower_prefix_iff]
  constructor
  · intro h
    let doc := Document.single "song" (start ++ rest)
    obtain ⟨found, hfound, hall⟩ := h { store := ⟨[("taylorsongs", [doc])]⟩ } [doc] rfl rfl
    have hdoc : doc ∈ found :=
      hall doc (List.mem_singleton_self doc) (Document.single_holds "song" (start ++ rest))
    by_cases hstart : Question.Writable start
    · rw [songs_of_title rfl rfl hstart, Except.ok.injEq] at hfound
      rw [← hfound, List.mem_filter] at hdoc
      have hbegins := Condition.prefix_of_holds_single hpoint hdoc.2
      rw [Text.lower_lower] at hbegins
      exact ⟨hstart, hbegins⟩
    · obtain ⟨fault, hfault⟩ := songs_of_unwritable { store := _ } hstart
      rw [hfault] at hfound
      cases hfound
  · rintro ⟨hstart, hbegins⟩ service stored hcatalog hstored
    refine ⟨_, songs_of_title hcatalog hstored hstart, ?_⟩
    intro doc hmem hdoc
    apply List.mem_filter.2
    refine ⟨hmem, Condition.holds_startsWith_of_prefix hpoint ?_ hdoc⟩
    rwa [Text.lower_lower]

/-- A test for the beginning selects every text that literally begins so, and a request for such
titles finds them, exactly if no word of the text goes on after a capital sigma that ends the
beginning; the request has to be one that can be written. -/
theorem beginnings_found_iff {field : String} (hpoint : '.' ∉ field.toList)
    (start rest : String) :
    ((∀ collation (doc : Document), doc.Holds field (start ++ rest) →
        (Condition.startsWith field start).holds collation doc = true) ↔
      ¬ Text.SplitsAtSigma start rest) ∧
    (FindsTitles start rest ↔ Question.Writable start ∧ ¬ Text.SplitsAtSigma start rest) := by
  constructor
  · exact Condition.startsWith_finds_iff hpoint start rest
  · exact findsTitles_iff start rest

theorem beginnings_found_love :
    (∀ collation (doc : Document), doc.Holds "song" ("Love " ++ "Story") →
      (Condition.startsWith "song" "Love ").holds collation doc = true) ∧
    FindsTitles "Love " "Story" := by
  have hsplit : ¬ Text.SplitsAtSigma "Love " "Story" := by
    rintro ⟨⟨before, passed, hchars, -, -⟩, -⟩
    have hsigma : 'Σ' ∈ "Love ".toList := by simp [hchars]
    exact absurd hsigma (by decide)
  have hpoint : '.' ∉ "song".toList := by decide
  obtain ⟨hcondition, hrequest⟩ := beginnings_found_iff hpoint "Love " "Story"
  exact ⟨hcondition.2 hsplit, hrequest.2 ⟨⟨by decide, by decide⟩, hsplit⟩⟩

/-- The sigma of the beginning becomes a final one, that of the title does not. -/
theorem beginning_missed_at_sigma :
    let doc := Document.single "song" "ΑΣΑ"
    doc.Holds "song" ("ΑΣ" ++ "Α") ∧
      (∀ collation, (Condition.startsWith "song" "ΑΣ").holds collation doc = false) ∧
      songs { store := ⟨[("taylorsongs", [doc])]⟩ } (Params.ofPairs (titleRequest "ΑΣ")) =
        .ok [] := by
  intro doc
  have hmissed : ∀ start ∈ ["ΑΣ", Text.lower "ΑΣ"], ∀ collation,
      (Condition.startsWith "song" start).holds collation doc = false := by
    intro start hstart collation
    revert start
    cases collation <;> decide +kernel
  refine ⟨Document.single_holds "song" "ΑΣΑ", hmissed "ΑΣ" (by simp), ?_⟩
  rw [songs_of_title rfl rfl ⟨by decide, by decide⟩]
  simp [hmissed]

end Service

end Songbook
