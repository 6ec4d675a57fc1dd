import Songbook.Proofs.Text.Cutting
import Songbook.Proofs.Text.Lowering
import Songbook.Request.Descriptor

/-!
# Written questions

A question is asked by its name with the parameter between parentheses. Main statement: what was
written is what the descriptor asks, in small letters, unless the parameter is empty or holds a
closing parenthesis; then the request is at fault.
-/

namespace Songbook

/-- The parameters that can be written: the first closing parenthesis ends one. -/
def Question.Writable (param : String) : Prop :=
  param ≠ "" ∧ ')' ∉ param.toList

namespace Question

variable {name param : String}

theorem toList_write (name param : String) :
    (write ⟨name, some param⟩).toList = name.toList ++ '(' :: (param.toList ++ [')']) := by
  simp [write]

theorem read?_write (hname : name ≠ "") (hopen : '(' ∉ name.toList) (hparam : Writable param) :
    read? (write ⟨name, some param⟩) = some ⟨name, some param⟩ := by
  obtain ⟨htake, hdrop⟩ := Text.span_separator hopen (param.toList ++ [')'])
  obtain ⟨hinner, hend⟩ := Text.span_separator hparam.2 []
  rw [read?, ofChars?, toList_write, htake, hdrop]
  simp [hname, hinner, hend, hparam.1, String.ofList_toList]

/-- A name is written as it is. -/
theorem read?_name (hname : name ≠ "") (hopen : '(' ∉ name.toList) :
    read? (write ⟨name, none⟩) = some ⟨name, none⟩ := by
  have hpass : ∀ c ∈ name.toList, (c != '(') = true := by
    intro c hc
    rw [bne_iff_ne]
    rintro rfl
    exact hopen hc
  have htake : name.toList.takeWhile (· != '(') = name.toList := List.takeWhile_eq_self_iff.2 hpass
  have hdrop : name.toList.dropWhile (· != '(') = [] := List.dropWhile_eq_nil_iff.2 hpass
  rw [read?, ofChars?, write, htake, hdrop]
  simp [hname, String.ofList_toList]

theorem read?_write_eq_none (hopen : '(' ∉ name.toList) (hparam : ¬ Writable param) :
    read? (write ⟨name, some param⟩) = none := by
  obtain ⟨htake, hdrop⟩ := Text.span_separator hopen (param.toList ++ [')'])
  have hfault : ¬ ((param.toList ++ [')']).dropWhile (· != ')') = [')'] ∧
      (param.toList ++ [')']).takeWhile (· != ')') ≠ []) := by
    rintro ⟨hend, hinner⟩
    apply hparam
    constructor
    · rintro rfl
      exact hinner rfl
    · intro hclose
      -- characters of the parameter are left over besides the last parenthesis
      have hleft : param.toList.dropWhile (· != ')') ≠ [] := by
        intro hnil
        have hpass := List.dropWhile_eq_nil_iff.1 hnil ')' hclose
        exact absurd hpass (by decide)
      rw [List.dropWhile_append, if_neg (by simpa using hleft)] at hend
      exact hleft (List.append_left_eq_self.1 hend)
  rw [read?, ofChars?, toList_write, htake, hdrop]
  simp only [if_neg hfault, ite_self]

theorem parts_parentheses : Text.Parts '(' ∧ Text.Parts ')' := by
  constructor
  · exact ⟨by decide +kernel, by decide +kernel, Text.isSmall_of_lt_capitals (by decide)⟩
  · exact ⟨by decide +kernel, by decide +kernel, Text.isSmall_of_lt_capitals (by decide)⟩

/-- The parentheses keep name and parameter apart, so each is lower-cased by itself. -/
theorem lower_write (name param : String) :
    Text.lower (write ⟨name, some param⟩) = write ⟨Text.lower name, some (Text.lower param)⟩ := by
  obtain ⟨hopen, hclose⟩ := parts_parentheses
  apply String.toList_inj.1
  rw [toList_write, Text.lower, Text.lower, Text.lower, String.toList_ofList, String.toList_ofList,
    String.toList_ofList, toList_write, Text.lowerChars_parted hopen,
    Text.lowerChars_parted hclose]
  rfl

theorem writable_lower_iff : Writable (Text.lower param) ↔ Writable param := by
  unfold Writable
  rw [Text.mem_lower_iff (by decide), ne_eq, Text.lower_eq_empty_iff]

end Question

theorem Params.ofPairs_question (text : String) :
    ofPairs [("question", text)] = ⟨[("question", [Text.lower text])]⟩ := by
  have hkey : foldKey "question" = "question" := by decide
  simp [ofPairs, insert, Entries.alter, hkey]

namespace Descriptor

variable (types : FieldTypes) {name param : String}

/-- A single value under `question` makes a descriptor of a question alone. -/
theorem ofParams_question (value : String) :
    ofParams types ⟨[("question", [value])]⟩ =
      (questionOf ⟨[("question", [value])]⟩).map fun question => { question := question } := by
  have hcount : ∀ keyword ∈ ["limit", "skip"],
      countOf ⟨[("question", [value])]⟩ keyword = .ok none := by
    intro keyword hk
    have hne : "question" ≠ keyword := by
      rintro rfl
      exact absurd hk (by decide)
    simp [countOf, single, Params.get?, Entries.get?, hne]
    rfl
  have hfilter : filterOf types ⟨[("question", [value])]⟩ = .ok none := rfl
  rw [ofParams, hcount "limit" (by simp), hcount "skip" (by simp), hfilter]
  cases questionOf ⟨[("question", [value])]⟩ <;> rfl

theorem questionOf_single {params : Params} {value : String}
    (h : params.get? "question" = some [value]) (hne : value ≠ "") :
    questionOf params =
      match Question.read? value with
      | some question => .ok (some question)
      | none => .error (.malformedQuestion value) := by
  have hfull : value.isEmpty = false := by simpa using hne
  have hsingle : single params "question" = .ok (some value) := by
    rw [single, h]
  rw [questionOf, hsingle]
  simp only [bind, Except.bind, hfull]
  cases Question.read? value <;> rfl

theorem questionOf_empty {params : Params} (h : params.get? "question" = some [""]) :
    questionOf params = .ok none := by
  rw [questionOf, single, h]
  rfl

/-- A request for a written question is read as that question in small letters. -/
theorem ofParams_write (name param : String) :
    ofParams types (Params.ofPairs [("question", Question.write ⟨name, some param⟩)]) =
      match Question.read? (Question.write ⟨Text.lower name, some (Text.lower param)⟩) with
      | some question => .ok { question := some question }
      | none => .error (.malformedQuestion (Text.lower (Question.write ⟨name, some param⟩))) := by
  have hne : Question.write ⟨Text.lower name, some (Text.lower param)⟩ ≠ "" := by
    intro hempty
    have hlist := congrArg String.toList hempty
    simp [Question.toList_write] at hlist
  rw [Params.ofPairs_question, Question.lower_write, ofParams_question, questionOf_single rfl hne]
  cases Question.read? (Question.write ⟨Text.lower name, some (Text.lower param)⟩) <;> rfl

theorem ofParams_name (hname : name ≠ "") (hopen : '(' ∉ name.toList) :
    ofParams types (Params.ofPairs [("question", Question.write ⟨name, none⟩)]) =
      .ok { question := some ⟨Text.lower name, none⟩ } := by
  have hne : Text.lower name ≠ "" := by rwa [ne_eq, Text.lower_eq_empty_iff]
  have hlower : '(' ∉ (Text.lower name).toList := by rwa [Text.mem_lower_iff (by decide)]
  have hread : Question.read? (Text.lower name) = some ⟨Text.lower name, none⟩ :=
    Question.read?_name hne hlower
  rw [Params.ofPairs_question, ofParams_question, Question.write, questionOf_single rfl hne, hread]
  rfl

theorem ofParams_writable (hname : name ≠ "") (hopen : '(' ∉ name.toList)
    (hparam : Question.Writable param) :
    ofParams types (Params.ofPairs [("question", Question.write ⟨name, some param⟩)]) =
      .ok { question := some ⟨Text.lower name, some (Text.lower param)⟩ } := by
  have hlower : '(' ∉ (Text.lower name).toList := by rwa [Text.mem_lower_iff (by decide)]
  rw [ofParams_write, Question.read?_write (by rwa [ne_eq, Text.lower_eq_empty_iff]) hlower
    (Question.writable_lower_iff.2 hparam)]

theorem ofParams_unwritable (hopen : '(' ∉ name.toList) (hparam : ¬ Question.Writable param) :
    ofParams types (Params.ofPairs [("question", Question.write ⟨name, some param⟩)]) =
      .error (.malformedQuestion (Text.lower (Question.write ⟨name, some param⟩))) := by
  have hlower : '(' ∉ (Text.lower name).toList := by rwa [Text.mem_lower_iff (by decide)]
  rw [ofParams_write, Question.read?_write_eq_none hlower
    (fun h => hparam (Question.writable_lower_iff.1 h))]

end Descriptor

end Songbook
