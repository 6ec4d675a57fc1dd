import Mathlib.Data.List.TakeWhile
import Songbook.Proofs.Text.Folding

/-!
# Trimmed texts

A text is some blanks, its trimmed form, and some blanks again. Main statements: blanks at either end
leave no trace, and the trimmed form neither begins nor ends with one.
-/

namespace Songbook.Text

variable {blanks cs ds : List Char}

theorem trimStart_blanks_append (h : ∀ c ∈ blanks, isBlank c = true) (cs : List Char) :
    trimStart (blanks ++ cs) = trimStart cs :=
  List.dropWhile_append_of_pos h

theorem trimEnd_append_blanks (h : ∀ c ∈ blanks, isBlank c = true) (cs : List Char) :
    trimEnd (cs ++ blanks) = trimEnd cs := by
  have hrev : ∀ c ∈ blanks.reverse, isBlank c = true := fun c hc => h c (List.mem_reverse.1 hc)
  rw [trimEnd, List.reverse_append, List.dropWhile_append_of_pos hrev, trimEnd]

/-- What stands before a character that is not blank is not trimmed at the end. -/
theorem trimEnd_append (h : ∀ c, cs.getLast? = some c → isBlank c = false) (ds : List Char) :
    trimEnd (cs ++ ds) = cs ++ trimEnd ds := by
  have hkeep : cs.reverse.dropWhile isBlank = cs.reverse :=
    trimStart_eq_self fun c hc => h c (by rwa [List.head?_reverse] at hc)
  rw [trimEnd, List.reverse_append, List.dropWhile_append]
  split
  · next hempty =>
    rw [hkeep, List.reverse_reverse, trimEnd, List.isEmpty_iff.1 hempty]
    simp
  · rw [List.reverse_append, List.reverse_reverse, trimEnd]

theorem trimChars_blanks_append (h : ∀ c ∈ blanks, isBlank c = true) (cs : List Char) :
    trimChars (blanks ++ cs) = trimChars cs := by
  rw [trimChars, trimStart_blanks_append h, trimChars]

theorem trimChars_append_blanks (h : ∀ c ∈ blanks, isBlank c = true) (cs : List Char) :
    trimChars (cs ++ blanks) = trimChars cs := by
  rw [trimChars, trimStart, List.dropWhile_append]
  split
  · next hempty =>
    have hall : blanks.dropWhile isBlank = [] := List.dropWhile_eq_nil_iff.2 h
    rw [hall, trimChars, trimStart, List.isEmpty_iff.1 hempty]
  · rw [trimEnd_append_blanks h, trimChars, trimStart]

theorem mem_of_mem_trimEnd {c : Char} (h : c ∈ trimEnd cs) : c ∈ cs := by
  have hdropped := (List.dropWhile_sublist isBlank).subset (List.mem_reverse.1 h)
  exact List.mem_reverse.1 hdropped

/-- A text before the blanks at its end. -/
theorem exists_blanks_after (cs : List Char) :
    ∃ after, cs = trimEnd cs ++ after ∧ ∀ c ∈ after, isBlank c = true := by
  refine ⟨(cs.reverse.takeWhile isBlank).reverse, ?_, ?_⟩
  · rw [trimEnd, ← List.reverse_append, List.takeWhile_append_dropWhile, List.reverse_reverse]
  · intro c hc
    exact List.mem_takeWhile_imp (List.mem_reverse.1 hc)

theorem trimChars_trimEnd (cs : List Char) : trimChars (trimEnd cs) = trimChars cs := by
  obtain ⟨after, hcs, hafter⟩ := exists_blanks_after cs
  calc trimChars (trimEnd cs) = trimChars (trimEnd cs ++ after) :=
        (trimChars_append_blanks hafter _).symm
    _ = trimChars cs := by rw [← hcs]

/-- A text around its trimmed form. -/
theorem exists_blanks (cs : List Char) : ∃ before after,
    cs = before ++ (trimChars cs ++ after) ∧ (∀ c ∈ before, isBlank c = true) ∧
      ∀ c ∈ after, isBlank c = true := by
  obtain ⟨after, hstart, hafter⟩ := exists_blanks_after (trimStart cs)
  refine ⟨cs.takeWhile isBlank, after, ?_, fun c hc => List.mem_takeWhile_imp hc, hafter⟩
  rw [trimChars, ← hstart, trimStart, List.takeWhile_append_dropWhile]

theorem mem_of_mem_trimChars {c : Char} (h : c ∈ trimChars cs) : c ∈ cs := by
  obtain ⟨before, after, hcs, -, -⟩ := exists_blanks cs
  rw [hcs]
  exact List.mem_append_right _ (List.mem_append_left _ h)

/-- A text that is not all blank has a trimmed form. -/
theorem trimChars_ne_nil {c : Char} (h : c ∈ cs) (hc : isBlank c = false) : trimChars cs ≠ [] := by
  obtain ⟨before, after, hcs, hbefore, hafter⟩ := exists_blanks cs
  intro hnil
  rw [hcs, hnil] at h
  have hblank : isBlank c = true := by
    rcases List.mem_append.1 h with h | h
    · exact hbefore c h
    · exact hafter c h
  rw [hc] at hblank
  cases hblank

theorem trimChars_trimChars (cs : List Char) : trimChars (trimChars cs) = trimChars cs := by
  obtain ⟨before, after, hcs, hbefore, hafter⟩ := exists_blanks cs
  calc trimChars (trimChars cs) = trimChars (before ++ (trimChars cs ++ after)) := by
        rw [trimChars_blanks_append hbefore, trimChars_append_blanks hafter]
    _ = trimChars cs := by rw [← hcs]

theorem trim_trim (s : String) : trim (trim s) = trim s := by
  rw [trim_eq_self_iff, trim, String.toList_ofList, trimChars_trimChars]

end Songbook.Text
