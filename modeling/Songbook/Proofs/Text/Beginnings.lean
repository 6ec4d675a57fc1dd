import Songbook.Proofs.Text.Lowering

/-!
# Lower-cased beginnings

Whether the lower-cased form of a text begins with the lower-cased form of its beginning. Main
statement: it does unless the cut makes an inner sigma a final one.
-/

namespace Songbook.Text

/-- The last letter is a capital sigma after a cased letter: the sigma is final if the text ends
here. -/
def EndsInSigma (cs : List Char) : Prop :=
  ∃ before passed, cs = before ++ 'Σ' :: passed ∧ meetsCased before.reverse = true ∧
    ∀ c ∈ passed, isCaseIgnorable c = true

/-- The word goes on after the sigma at the end of the first text. -/
def SplitsAtSigma (start rest : String) : Prop :=
  EndsInSigma start.toList ∧ meetsCased rest.toList = true

variable {before cs ds after : List Char}

theorem meetsCased_append_of_ignorable (h : ∀ c ∈ cs, isCaseIgnorable c = true)
    (ds : List Char) : meetsCased (cs ++ ds) = meetsCased ds := by
  rw [meetsCased, List.dropWhile_append_of_pos h, meetsCased]

theorem meetsCased_append_of_stop (h : ¬ ∀ c ∈ cs, isCaseIgnorable c = true) (ds : List Char) :
    meetsCased (cs ++ ds) = meetsCased cs := by
  have hstop : cs.dropWhile isCaseIgnorable ≠ [] := fun hnil => h (List.dropWhile_eq_nil_iff.1 hnil)
  obtain ⟨c, rest, hrest⟩ := List.exists_cons_of_ne_nil hstop
  rw [meetsCased, List.dropWhile_append, hrest, meetsCased, hrest]
  rfl

/-- Only the final sigma of a text depends on what follows the text. -/
theorem lowerBetween_of_not_final (after : List Char)
    (h : ∀ front passed, cs = front ++ 'Σ' :: passed →
      meetsCased (front.reverse ++ before) = true → ¬ ∀ c ∈ passed, isCaseIgnorable c = true) :
    lowerBetween before after cs = lowerFrom before cs := by
  induction cs generalizing before with
  | nil => rfl
  | cons c cs ih =>
    have hrest : lowerBetween (c :: before) after cs = lowerFrom (c :: before) cs := by
      refine ih fun front passed hcs hmeets => ?_
      refine h (c :: front) passed (congrArg (List.cons c) hcs) ?_
      rwa [List.reverse_cons, List.append_assoc]
    have hat : lowerAt before (cs ++ after) c = lowerAt before cs c := by
      unfold lowerAt
      split
      · next hsigma =>
        subst hsigma
        cases hmeets : meetsCased before with
        | false => simp [lowerSigma, hmeets]
        | true => rw [lowerSigma, lowerSigma,
            meetsCased_append_of_stop (h [] cs rfl hmeets) after]
      · rfl
    rw [lowerBetween, hat, hrest, lowerFrom_cons]

/-- A final sigma becomes another letter if the word goes on. -/
theorem lowerBetween_of_endsInSigma (h : EndsInSigma cs) (hafter : meetsCased after = true) :
    lowerBetween [] after cs ≠ lowerChars cs := by
  obtain ⟨front, passed, rfl, hfront, hpassed⟩ := h
  intro heq
  rw [lowerChars, ← lowerBetween_nil, lowerBetween_append, lowerBetween_append] at heq
  have hsecond := (List.append_inj heq (length_lowerBetween _ _ _ _ _)).2
  have hinner : lowerSigma (front.reverse ++ []) (passed ++ after) = 'σ' := by
    rw [lowerSigma, meetsCased_append_of_ignorable hpassed, hafter, Bool.not_true, Bool.and_false]
    rfl
  have hfinal : lowerSigma (front.reverse ++ []) (passed ++ []) = 'ς' := by
    rw [lowerSigma, meetsCased_append_of_ignorable hpassed, meetsCased_nil, List.append_nil, hfront]
    rfl
  rw [lowerBetween, lowerBetween, lowerAt, lowerAt, if_pos rfl, if_pos rfl, hinner, hfinal] at hsecond
  exact absurd (List.cons.inj hsecond).1 (by decide)

/-- The lower-cased text begins with the lower-cased beginning unless a word is cut after a sigma. -/
theorem lower_prefix_iff (start rest : String) :
    (lower start).toList <+: (lower (start ++ rest)).toList ↔ ¬ SplitsAtSigma start rest := by
  have hsplit : (lower (start ++ rest)).toList =
      lowerBetween [] rest.toList start.toList ++
        lowerFrom (start.toList.reverse ++ []) rest.toList := by
    rw [lower, String.toList_ofList, String.toList_append, lowerChars, lowerFrom_append]
  have hlength : (lowerChars start.toList).length =
      (lowerBetween [] rest.toList start.toList).length := by
    rw [lowerChars, ← lowerBetween_nil]
    exact length_lowerBetween _ _ _ _ _
  rw [hsplit, lower, String.toList_ofList]
  constructor
  · rintro hbegins ⟨hends, hmeets⟩
    have hle := List.prefix_of_prefix_length_le hbegins (List.prefix_append _ _) hlength.le
    exact lowerBetween_of_endsInSigma hends hmeets (hle.eq_of_length hlength).symm
  · intro hwhole
    have heq : lowerBetween [] rest.toList start.toList = lowerChars start.toList := by
      cases hmeets : meetsCased rest.toList with
      | false =>
        rw [lowerChars, ← lowerBetween_nil]
        exact lowerBetween_congr rfl hmeets start.toList
      | true =>
        refine lowerBetween_of_not_final rest.toList fun front passed hcs hfront hpassed => ?_
        rw [List.append_nil] at hfront
        exact hwhole ⟨⟨front, passed, hcs, hfront, hpassed⟩, hmeets⟩
    rw [heq]
    exact List.prefix_append _ _

end Songbook.Text
