import Songbook.Proofs.Request.WellFormed

/-!
# Texts of questions

A question is well formed if its text can be told apart from all others. Main statement: a value
under `question` is read as the well-formed question that is written so, if there is one; an empty
value asks nothing, and any other is malformed.
-/

namespace Songbook

namespace Question

variable {s : String} {question other : Question}

theorem wellFormed_name_iff {name : String} :
    WellFormed ⟨name, none⟩ ↔ name ≠ "" ∧ '(' ∉ name.toList := by
  constructor
  · intro h
    exact ⟨h.named, h.parted⟩
  · rintro ⟨hname, hopen⟩
    exact ⟨hname, hopen, by rintro param ⟨⟩⟩

theorem wellFormed_param_iff {name param : String} :
    WellFormed ⟨name, some param⟩ ↔ name ≠ "" ∧ '(' ∉ name.toList ∧ Writable param := by
  constructor
  · intro h
    exact ⟨h.named, h.parted, h.writable param rfl⟩
  · rintro ⟨hname, hopen, hparam⟩
    exact ⟨hname, hopen, by rintro other ⟨⟩; exact hparam⟩

theorem WellFormed.read?_write (h : question.WellFormed) : read? question.write = some question := by
  obtain ⟨name, param⟩ := question
  cases param with
  | none => exact read?_name h.named h.parted
  | some param => exact Question.read?_write h.named h.parted (h.writable param rfl)

/-- Nothing of the text is lost: what stands before the first parenthesis is the name, what stands
between it and the last character the parameter. -/
theorem write_of_read? (h : read? s = some question) : question.write = s := by
  have hparts : s.toList.takeWhile (· != '(') ++ s.toList.dropWhile (· != '(') = s.toList :=
    List.takeWhile_append_dropWhile
  rw [read?, ofChars?] at h
  simp only at h
  split at h
  · cases h
  · split at h
    · next hrest =>
      obtain rfl := Option.some.inj h
      rw [hrest, List.append_nil] at hparts
      rw [write, hparts, String.ofList_toList]
    · next first inner hrest =>
      split at h
      · next hinner =>
        obtain rfl := Option.some.inj h
        obtain rfl : first = '(' := by
          have hfirst := List.head?_dropWhile_not (· != '(') s.toList
          rw [hrest] at hfirst
          simpa using hfirst
        have hparam : inner.takeWhile (· != ')') ++ [')'] = inner := by
          rw [← hinner.1, List.takeWhile_append_dropWhile]
        apply String.toList_inj.1
        rw [toList_write, String.toList_ofList, String.toList_ofList, hparam, ← hrest, hparts]
      · cases h

theorem read?_eq_some_iff : read? s = some question ↔ question.WellFormed ∧ question.write = s := by
  constructor
  · intro h
    exact ⟨wellFormed_of_read? h, write_of_read? h⟩
  · rintro ⟨hformed, rfl⟩
    exact hformed.read?_write

theorem read?_eq_none_iff : read? s = none ↔
    ∀ question : Question, question.WellFormed → question.write ≠ s := by
  simp only [Option.eq_none_iff_forall_ne_some, ne_eq, read?_eq_some_iff, not_and]

/-- A text is written by no well-formed question exactly if it is empty, or has an opening
parenthesis and is no name with a parameter. -/
theorem unwritten_iff : (∀ question : Question, question.WellFormed → question.write ≠ s) ↔
    (s ≠ "" → '(' ∈ s.toList) ∧ ∀ name param, name ≠ "" → '(' ∉ name.toList → Writable param →
      s ≠ name ++ "(" ++ param ++ ")" := by
  constructor
  · intro h
    refine ⟨fun hne => ?_, fun name param hname hopen hparam heq => ?_⟩
    · by_contra hopen
      exact h ⟨s, none⟩ (wellFormed_name_iff.2 ⟨hne, hopen⟩) rfl
    · exact h ⟨name, some param⟩ (wellFormed_param_iff.2 ⟨hname, hopen, hparam⟩) heq.symm
  · rintro ⟨hopen, hparam⟩ ⟨name, param⟩ hformed rfl
    cases param with
    | none => exact hformed.parted (hopen hformed.named)
    | some param =>
      exact hparam name param hformed.named hformed.parted (hformed.writable param rfl) rfl

end Question

namespace Descriptor

variable {params : Params} {raw : String}

theorem questionOf_eq_none_iff (h : params.get? "question" = some [raw]) :
    questionOf params = .ok none ↔ raw = "" := by
  by_cases hne : raw = ""
  · subst hne
    simp [questionOf_empty h]
  · rw [questionOf_single h hne]
    cases Question.read? raw <;> simp [hne]

theorem questionOf_eq_some_iff {question : Question} (h : params.get? "question" = some [raw]) :
    questionOf params = .ok (some question) ↔ question.WellFormed ∧ question.write = raw := by
  rw [← Question.read?_eq_some_iff]
  by_cases hne : raw = ""
  · subst hne
    have hread : Question.read? "" = none := rfl
    simp [questionOf_empty h, hread]
  · rw [questionOf_single h hne]
    cases Question.read? raw <;> simp

theorem questionOf_eq_error_iff {e : RequestError} (h : params.get? "question" = some [raw]) :
    questionOf params = .error e ↔ e = .malformedQuestion raw ∧ raw ≠ "" ∧
      ∀ question : Question, question.WellFormed → question.write ≠ raw := by
  rw [← Question.read?_eq_none_iff]
  by_cases hne : raw = ""
  · simp [questionOf_empty (hne ▸ h), hne]
  · rw [questionOf_single h hne]
    cases Question.read? raw <;> simp [hne, eq_comm]

/-- A value asks nothing if it is empty, the question of that name if it has no opening parenthesis,
and a name with a parameter if it is written so; any other is malformed. No two questions are written
alike. Faults of all other parts are told before. -/
theorem question_of_text (types : FieldTypes) {pairs : List (String × String)}
    (h : (Params.ofPairs pairs).get? "question" = some [raw]) :
    let asked := questionOf (.ofPairs pairs)
    ofParams types (.ofPairs pairs) =
      (ofParams types (.ofPairs (Params.withoutKey "question" pairs)) >>= fun rest =>
        asked.map fun question => { rest with question }) ∧
    (asked = .ok none ↔ raw = "") ∧
    (∀ name, asked = .ok (some ⟨name, none⟩) ↔ raw ≠ "" ∧ '(' ∉ raw.toList ∧ name = raw) ∧
    (∀ name param, asked = .ok (some ⟨name, some param⟩) ↔
      name ≠ "" ∧ '(' ∉ name.toList ∧ Question.Writable param ∧
        raw = name ++ "(" ++ param ++ ")") ∧
    (∀ e, asked = .error e ↔
      e = .malformedQuestion raw ∧ raw ≠ "" ∧ '(' ∈ raw.toList ∧
        ∀ name param, name ≠ "" → '(' ∉ name.toList → Question.Writable param →
          raw ≠ name ++ "(" ++ param ++ ")") ∧
    (∀ question, asked = .ok (some question) → question.write = raw) ∧
    ∀ question other : Question, question.WellFormed → other.WellFormed →
      question.write = raw → other.write = raw → question = other := by
  intro asked
  have hsome : ∀ question, asked = .ok (some question) ↔
      question.WellFormed ∧ question.write = raw := fun _ => questionOf_eq_some_iff h
  refine ⟨ofParams_question_last types pairs, questionOf_eq_none_iff h, fun name => ?_,
    fun name param => ?_, fun e => ?_, fun question hasked => ((hsome question).1 hasked).2, ?_⟩
  · rw [hsome, Question.wellFormed_name_iff]
    constructor
    · rintro ⟨⟨hname, hopen⟩, rfl⟩
      exact ⟨hname, hopen, rfl⟩
    · rintro ⟨hname, hopen, rfl⟩
      exact ⟨⟨hname, hopen⟩, rfl⟩
  · rw [hsome, Question.wellFormed_param_iff, and_assoc, and_assoc]
    exact and_congr_right' (and_congr_right' (and_congr_right' eq_comm))
  · rw [questionOf_eq_error_iff h, Question.unwritten_iff]
    constructor
    · rintro ⟨he, hne, hopen, hparam⟩
      exact ⟨he, hne, hopen hne, hparam⟩
    · rintro ⟨he, hne, hopen, hparam⟩
      exact ⟨he, hne, fun _ => hopen, hparam⟩
  · intro question other hformed hother hwrite hsame
    have hasked := (hsome question).2 ⟨hformed, hwrite⟩
    have hagain := (hsome other).2 ⟨hother, hsame⟩
    exact Option.some.inj (Except.ok.inj (hasked.symm.trans hagain))

/-- The parameter goes over two lines and holds a comma and an opening parenthesis. -/
theorem question_of_text_story :
    let pairs := [("sort", "-year"), (" QUESTION", "Title(Love,\nStory (x)")]
    (Params.ofPairs pairs).get? "question" = some ["title(love,\nstory (x)"] ∧
      ofParams [] (.ofPairs pairs) =
        .ok { sort := some [.desc "year"], question := some ⟨"title", some "love,\nstory (x"⟩ } := by
  intro pairs
  have hvalue : (Params.ofPairs pairs).get? "question" = some ["title(love,\nstory (x)"] := rfl
  obtain ⟨hlast, -, -, hparam, -⟩ := question_of_text [] hvalue
  have hasked := (hparam "title" "love,\nstory (x").2
    ⟨by decide, by decide, ⟨by decide, by decide⟩, by decide⟩
  refine ⟨hvalue, ?_⟩
  rw [hlast, hasked]
  rfl

/-- Only the last character may close the parameter. -/
example : Question.read? "title(love) story)" = none := rfl

end Descriptor

end Songbook
