import Mathlib.Data.List.Basic
import Songbook.Proofs.Text.Capitals
import Songbook.Proofs.Text.Trimming

/-!
# Lower-cased texts

A sigma looks past some characters for letters on either side, so a text in the middle of another is
lower-cased by what stands around it. Main statements: all it learns of its surroundings is whether
it meets a letter on either side, and signs and blanks let it meet none; hence lower-casing keeps
signs at their places, goes with trimming, and changes nothing the second time.
-/

namespace Songbook.Text

def lowerAt (before after : List Char) (c : Char) : List Char :=
  if c = 'Σ' then [lowerSigma before after] else lowerChar c

/-- Lower-cases a part of a text between what precedes it, last character first, and what follows. -/
def lowerBetween (before after : List Char) : List Char → List Char
  | [] => []
  | c :: cs => lowerAt before (cs ++ after) c ++ lowerBetween (c :: before) after cs

variable {before before' after after' cs ds : List Char} {c d : Char}

theorem lowerFrom_cons (before : List Char) (c : Char) (cs : List Char) :
    lowerFrom before (c :: cs) = lowerAt before cs c ++ lowerFrom (c :: before) cs := rfl

/-- A text in two parts. -/
theorem lowerFrom_append (before cs after : List Char) :
    lowerFrom before (cs ++ after) =
      lowerBetween before after cs ++ lowerFrom (cs.reverse ++ before) after := by
  induction cs generalizing before with
  | nil => rfl
  | cons c cs ih =>
    rw [List.cons_append, lowerFrom_cons, ih, lowerBetween, List.reverse_cons, List.append_assoc,
      List.append_assoc, List.singleton_append]

theorem lowerBetween_append (before after cs ds : List Char) :
    lowerBetween before after (cs ++ ds) =
      lowerBetween before (ds ++ after) cs ++ lowerBetween (cs.reverse ++ before) after ds := by
  induction cs generalizing before with
  | nil => rfl
  | cons c cs ih =>
    rw [List.cons_append, lowerBetween, ih, lowerBetween, List.reverse_cons, List.append_assoc,
      List.append_assoc, List.append_assoc, List.singleton_append]

theorem lowerBetween_nil (before cs : List Char) : lowerBetween before [] cs = lowerFrom before cs := by
  have happend := lowerFrom_append before cs []
  rw [List.append_nil, lowerFrom, List.append_nil] at happend
  exact happend.symm

section Neighbours

theorem meetsCased_nil : meetsCased [] = false := rfl

theorem meetsCased_cons (c : Char) (cs : List Char) :
    meetsCased (c :: cs) = if isCaseIgnorable c then meetsCased cs else isCased c := by
  cases h : isCaseIgnorable c <;> simp [meetsCased, h]

theorem meetsCased_cons_congr (h : meetsCased cs = meetsCased ds) (c : Char) :
    meetsCased (c :: cs) = meetsCased (c :: ds) := by
  rw [meetsCased_cons, meetsCased_cons, h]

theorem meetsCased_append_congr (h : meetsCased after = meetsCased after') (cs : List Char) :
    meetsCased (cs ++ after) = meetsCased (cs ++ after') := by
  induction cs with
  | nil => exact h
  | cons c cs ih => exact meetsCased_cons_congr ih c

/-- All that a part learns of its surroundings is whether it meets a letter on either side. -/
theorem lowerBetween_congr (hbefore : meetsCased before = meetsCased before')
    (hafter : meetsCased after = meetsCased after') (cs : List Char) :
    lowerBetween before after cs = lowerBetween before' after' cs := by
  induction cs generalizing before before' with
  | nil => rfl
  | cons c cs ih =>
    have hat : lowerAt before (cs ++ after) c = lowerAt before' (cs ++ after') c := by
      simp only [lowerAt, lowerSigma, hbefore, meetsCased_append_congr hafter cs]
    rw [lowerBetween, lowerBetween, hat, ih (meetsCased_cons_congr hbefore c)]

theorem length_lowerAt (before before' after after' : List Char) (c : Char) :
    (lowerAt before after c).length = (lowerAt before' after' c).length := by
  unfold lowerAt
  split <;> rfl

/-- Whatever the surroundings are, they do not change the length. -/
theorem length_lowerBetween (before before' after after' cs : List Char) :
    (lowerBetween before after cs).length = (lowerBetween before' after' cs).length := by
  induction cs generalizing before before' with
  | nil => rfl
  | cons c cs ih =>
    rw [lowerBetween, lowerBetween, List.length_append, List.length_append,
      length_lowerAt before before' (cs ++ after) (cs ++ after'), ih]

end Neighbours

section Characters

theorem isSmall_lowerSigma (before after : List Char) : IsSmall (lowerSigma before after) := by
  unfold lowerSigma
  split
  · exact ⟨by decide, by decide +kernel⟩
  · exact ⟨by decide, by decide +kernel⟩

theorem isLetterlike_lowerSigma (before after : List Char) :
    IsLetterlike (lowerSigma before after) := by
  unfold lowerSigma
  split
  · exact ⟨by decide, by decide⟩
  · exact ⟨by decide, by decide⟩

/-- A character stays as it is, or a letter becomes letters that stay as they are. -/
theorem lowerAt_cases (before after : List Char) (c : Char) :
    lowerAt before after c = [c] ∧ IsSmall c ∨
      IsLetterlike c ∧ ∀ d ∈ lowerAt before after c, IsLetterlike d ∧ IsSmall d := by
  unfold lowerAt
  split
  · next hsigma =>
    right
    subst hsigma
    refine ⟨⟨by decide, by decide⟩, fun d hd => ?_⟩
    obtain rfl := List.mem_singleton.1 hd
    exact ⟨isLetterlike_lowerSigma before after, isSmall_lowerSigma before after⟩
  · next hsigma =>
    rcases lowerChar_cases c with hkept | hchanged
    · exact .inl ⟨hkept, hsigma, hkept⟩
    · exact .inr hchanged

theorem lowerChar_ne_nil (c : Char) : lowerChar c ≠ [] := by
  rcases lowerChar_singleton_or c with ⟨d, hd⟩ | rfl
  · rw [hd]
    exact List.cons_ne_nil d []
  · exact List.cons_ne_nil 'i' ['\u0307']

theorem lowerAt_ne_nil (before after : List Char) (c : Char) : lowerAt before after c ≠ [] := by
  unfold lowerAt
  split
  · exact List.cons_ne_nil _ []
  · exact lowerChar_ne_nil c

theorem isSmall_of_mem_lowerAt (h : d ∈ lowerAt before after c) : IsSmall d := by
  rcases lowerAt_cases before after c with ⟨hkept, hsmall⟩ | ⟨-, hletters⟩
  · rw [hkept] at h
    exact List.mem_singleton.1 h ▸ hsmall
  · exact (hletters d h).2

theorem isBlank_of_mem_lowerAt (h : d ∈ lowerAt before after c) : isBlank d = isBlank c := by
  rcases lowerAt_cases before after c with ⟨hkept, -⟩ | ⟨hc, hletters⟩
  · rw [hkept] at h
    rw [List.mem_singleton.1 h]
  · rw [(hletters d h).1.2, hc.2]

/-- A sign comes from itself alone. -/
theorem eq_of_mem_lowerAt (hsign : d.toNat ≤ '@'.toNat) (h : d ∈ lowerAt before after c) :
    d = c := by
  rcases lowerAt_cases before after c with ⟨hkept, -⟩ | ⟨-, hletters⟩
  · rw [hkept] at h
    exact List.mem_singleton.1 h
  · exact absurd (hletters d h).1.1 (Nat.not_lt.2 hsign)

theorem lowerAt_of_isSmall (h : IsSmall c) (before after : List Char) :
    lowerAt before after c = [c] := by
  rw [lowerAt, if_neg h.1, h.2]

theorem isSmall_of_mem_lowerFrom (h : d ∈ lowerFrom before cs) : IsSmall d := by
  induction cs generalizing before with
  | nil => cases h
  | cons c cs ih =>
    rw [lowerFrom_cons] at h
    rcases List.mem_append.1 h with h | h
    · exact isSmall_of_mem_lowerAt h
    · exact ih h

theorem lower_lower (s : String) : lower (lower s) = lower s := by
  rw [lower_eq_self_iff]
  intro c hc
  rw [lower, String.toList_ofList] at hc
  exact isSmall_of_mem_lowerFrom hc

/-- Lower-casing neither makes nor takes signs. -/
theorem mem_lowerFrom_iff (hsign : d.toNat ≤ '@'.toNat) : d ∈ lowerFrom before cs ↔ d ∈ cs := by
  have hsmall : IsSmall d := isSmall_of_lt_capitals (Nat.lt_succ_of_le hsign)
  induction cs generalizing before with
  | nil => rfl
  | cons c cs ih =>
    rw [lowerFrom_cons, List.mem_append, List.mem_cons]
    refine or_congr ⟨fun h => eq_of_mem_lowerAt hsign h, ?_⟩ ih
    rintro rfl
    rw [lowerAt_of_isSmall hsmall]
    exact List.mem_singleton_self d

theorem mem_lower_iff {s : String} (hsign : d.toNat ≤ '@'.toNat) :
    d ∈ (lower s).toList ↔ d ∈ s.toList := by
  rw [lower, String.toList_ofList]
  exact mem_lowerFrom_iff hsign

theorem lower_eq_empty_iff {s : String} : lower s = "" ↔ s = "" := by
  rw [← String.toList_eq_nil_iff, lower, String.toList_ofList, ← String.toList_eq_nil_iff]
  cases s.toList with
  | nil => exact Iff.rfl
  | cons c cs => simp [lowerChars, lowerFrom_cons, lowerAt_ne_nil]

end Characters

section Parted

/-- A character that lets no letter be met beyond it, and stays as it is. -/
structure Parts (c : Char) : Prop where
  uncased : isCased c = false
  stops : isCaseIgnorable c = false
  small : IsSmall c

theorem Parts.meetsCased_cons (hc : Parts c) (cs : List Char) : meetsCased (c :: cs) = false := by
  rw [Text.meetsCased_cons, hc.stops, hc.uncased]
  rfl

/-- The parts of a text before and after such a character are lower-cased by themselves. -/
theorem lowerChars_parted (hc : Parts c) (cs ds : List Char) :
    lowerChars (cs ++ c :: ds) = lowerChars cs ++ c :: lowerChars ds := by
  have hfirst : lowerBetween [] (c :: ds) cs = lowerChars cs := by
    rw [lowerChars, ← lowerBetween_nil]
    exact lowerBetween_congr rfl (hc.meetsCased_cons ds) cs
  have hsecond : lowerFrom (c :: (cs.reverse ++ [])) ds = lowerChars ds := by
    rw [lowerChars, ← lowerBetween_nil, ← lowerBetween_nil]
    exact lowerBetween_congr (hc.meetsCased_cons _) rfl ds
  rw [lowerChars, lowerFrom_append, hfirst, lowerFrom_cons, lowerAt_of_isSmall hc.small, hsecond]
  rfl

theorem blankRanges_apart : blankRanges.all (fun range =>
    casedRanges.isApart range.1 range.2 && caseIgnorableRanges.isApart range.1 range.2) = true := by
  decide +kernel

theorem parts_of_isBlank (h : isBlank c = true) : Parts c := by
  obtain ⟨range, hrange, hin⟩ := List.any_eq_true.1 h
  have hapart := List.all_eq_true.1 blankRanges_apart range hrange
  simp only [Bool.and_eq_true, decide_eq_true_eq] at hin hapart
  refine ⟨Ranges.has_eq_false_of_isApart hapart.1 hin.1 hin.2,
    Ranges.has_eq_false_of_isApart hapart.2 hin.1 hin.2, ?_⟩
  rcases lowerAt_cases [] [] c with ⟨-, hsmall⟩ | ⟨hletter, -⟩
  · exact hsmall
  · rw [hletter.2] at h
    cases h

variable {blanks : List Char}

theorem lowerChars_blanks_append (h : ∀ c ∈ blanks, isBlank c = true) (cs : List Char) :
    lowerChars (blanks ++ cs) = blanks ++ lowerChars cs := by
  induction blanks with
  | nil => rfl
  | cons c blanks ih =>
    have hcons := lowerChars_parted (parts_of_isBlank (h c List.mem_cons_self)) [] (blanks ++ cs)
    rw [List.cons_append, List.cons_append, ← ih fun d hd => h d (List.mem_cons_of_mem c hd)]
    exact hcons

theorem lowerChars_append_blanks (h : ∀ c ∈ blanks, isBlank c = true) (cs : List Char) :
    lowerChars (cs ++ blanks) = lowerChars cs ++ blanks := by
  cases blanks with
  | nil => rw [List.append_nil, List.append_nil]
  | cons c blanks =>
    have hkept : lowerChars blanks = blanks := lowerChars_eq_self_iff.2 fun d hd =>
      (parts_of_isBlank (h d (List.mem_cons_of_mem c hd))).small
    rw [lowerChars_parted (parts_of_isBlank (h c List.mem_cons_self)), hkept]

/-- A lower-cased text neither begins nor ends with a blank unless the text does. -/
theorem trimChars_lowerChars_of_trimmed (h : trimChars cs = cs) :
    trimChars (lowerChars cs) = lowerChars cs := by
  refine trimChars_eq_self ?_ ?_
  · intro d hd
    cases cs with
    | nil => cases hd
    | cons c cs =>
      rw [lowerChars, lowerFrom_cons, List.head?_append_of_ne_nil _ (lowerAt_ne_nil [] cs c)] at hd
      rw [isBlank_of_mem_lowerAt (List.mem_of_head? hd)]
      exact head_not_blank h c rfl
  · intro d hd
    rcases List.eq_nil_or_concat' cs with rfl | ⟨cs, c, rfl⟩
    · cases hd
    · rw [lowerChars, lowerFrom_append, lowerFrom_cons, lowerFrom, List.append_nil,
        List.getLast?_append_of_ne_nil _ (lowerAt_ne_nil _ [] c)] at hd
      rw [isBlank_of_mem_lowerAt (List.mem_of_getLast? hd)]
      exact last_not_blank h c (by simp)

/-- Trimming and lower-casing may change places. -/
theorem lower_trim (s : String) : lower (trim s) = trim (lower s) := by
  obtain ⟨before, after, hs, hbefore, hafter⟩ := exists_blanks s.toList
  have hlower : lowerChars s.toList = before ++ (lowerChars (trimChars s.toList) ++ after) := by
    calc lowerChars s.toList = lowerChars (before ++ (trimChars s.toList ++ after)) := by rw [← hs]
      _ = before ++ (lowerChars (trimChars s.toList) ++ after) := by
        rw [lowerChars_blanks_append hbefore, lowerChars_append_blanks hafter]
  rw [lower, trim, String.toList_ofList, trim, lower, String.toList_ofList, hlower,
    trimChars_blanks_append hbefore, trimChars_append_blanks hafter,
    trimChars_lowerChars_of_trimmed (trimChars_trimChars s.toList)]

end Parted

end Songbook.Text
