import Songbook.Text.Pieces

/-!
# Cut texts

Cutting at a separator is the splitting of the standard library, so texts that are joined by a
separator which none of them holds are found again by cutting.
-/

namespace Songbook.Text

/-- A list cut before its first item that fails a test. -/
theorem span_append_cons {α : Type} {p : α → Bool} {xs : List α} {x : α}
    (hxs : ∀ y ∈ xs, p y = true) (hx : p x = false) (rest : List α) :
    (xs ++ x :: rest).takeWhile p = xs ∧ (xs ++ x :: rest).dropWhile p = x :: rest := by
  have hstop : ¬ p x = true := by simp [hx]
  rw [List.takeWhile_append_of_pos hxs, List.dropWhile_append_of_pos hxs,
    List.takeWhile_cons_of_neg hstop, List.dropWhile_cons_of_neg hstop, List.append_nil]
  exact ⟨rfl, rfl⟩

/-- A tail whose first item fails the test has no part in what is taken. -/
theorem span_append {α : Type} {p : α → Bool} {tail : List α}
    (htail : ∀ x, tail.head? = some x → p x = false) (xs : List α) :
    (xs ++ tail).takeWhile p = xs.takeWhile p ∧
      (xs ++ tail).dropWhile p = xs.dropWhile p ++ tail := by
  induction xs with
  | nil =>
    cases tail with
    | nil => exact ⟨rfl, rfl⟩
    | cons x rest => exact span_append_cons (by simp) (htail x rfl) rest
  | cons x xs ih =>
    cases hx : p x with
    | true => simpa [hx] using ih
    | false => simp [hx]

/-- A text cut before its first separator. -/
theorem span_separator {separator : Char} {cs : List Char} (h : separator ∉ cs)
    (rest : List Char) :
    (cs ++ separator :: rest).takeWhile (· != separator) = cs ∧
      (cs ++ separator :: rest).dropWhile (· != separator) = separator :: rest := by
  refine span_append_cons (p := (· != separator)) (fun c hc => ?_)
    (bne_self_eq_false separator) rest
  exact bne_iff_ne.2 fun heq => h (heq ▸ hc)

theorem piecesOf_eq_splitOn (separator : Char) (cs : List Char) :
    piecesOf separator cs = cs.splitOn separator := by
  induction cs with
  | nil => simp [piecesOf]
  | cons c rest ih =>
    rw [piecesOf, List.splitOn_cons_eq_if_modifyHead, ih]
    by_cases hc : c = separator
    · rw [if_pos hc, if_pos (beq_iff_eq.2 hc)]
    · rw [if_neg hc, if_neg (fun h => hc (beq_iff_eq.1 h))]
      cases hs : rest.splitOn separator with
      | nil => exact absurd hs (List.splitOn_ne_nil separator rest)
      | cons piece pieces => rfl

theorem pieces_ne_nil (separator : Char) (s : String) : pieces separator s ≠ [] := by
  rw [pieces, ne_eq, List.map_eq_nil_iff]
  exact piecesOf_ne_nil separator s.toList

/-- A separator ends one piece and begins the next. -/
theorem piecesOf_append (separator : Char) (cs ds : List Char) :
    piecesOf separator (cs ++ separator :: ds) =
      piecesOf separator cs ++ piecesOf separator ds := by
  induction cs with
  | nil => simp [piecesOf]
  | cons c rest ih =>
    rw [List.cons_append, piecesOf, piecesOf, ih]
    by_cases hc : c = separator
    · rw [if_pos hc, if_pos hc, List.cons_append]
    · obtain ⟨first, pieces, hpieces⟩ :=
        List.exists_cons_of_ne_nil (piecesOf_ne_nil separator rest)
      rw [if_neg hc, if_neg hc, hpieces]
      rfl

theorem pieces_append {separator : Char} {joint : String} (hjoint : joint.toList = [separator])
    (s t : String) : pieces separator (s ++ joint ++ t) = pieces separator s ++ pieces separator t := by
  have hlist : (s ++ joint ++ t).toList = s.toList ++ separator :: t.toList := by
    simp [String.toList_append, hjoint]
  rw [pieces, hlist, piecesOf_append, List.map_append, pieces, pieces]

theorem pieces_of_not_mem {separator : Char} {s : String} (h : separator ∉ s.toList) :
    pieces separator s = [s] := by
  rw [pieces, piecesOf_of_not_mem h, List.map_singleton, String.ofList_toList]

/-- A text with a separator has more than one piece. -/
theorem piecesOf_of_mem {separator : Char} {cs : List Char} (h : separator ∈ cs) :
    ∃ first second rest, piecesOf separator cs = first :: second :: rest := by
  induction cs with
  | nil => cases h
  | cons c cs ih =>
    by_cases hc : c = separator
    · obtain ⟨second, rest, hrest⟩ := List.exists_cons_of_ne_nil (piecesOf_ne_nil separator cs)
      refine ⟨[], second, rest, ?_⟩
      rw [piecesOf, if_pos hc, hrest]
    · have hmem : separator ∈ cs := (List.mem_cons.1 h).resolve_left (Ne.symm hc)
      obtain ⟨first, second, rest, hrest⟩ := ih hmem
      refine ⟨c :: first, second, rest, ?_⟩
      rw [piecesOf, if_neg hc, hrest]

theorem pieces_of_mem {separator : Char} {s : String} (h : separator ∈ s.toList) :
    ∃ first second rest, pieces separator s = first :: second :: rest := by
  obtain ⟨first, second, rest, hrest⟩ := piecesOf_of_mem h
  exact ⟨_, _, _, by rw [pieces, hrest, List.map_cons, List.map_cons]⟩

/-- No piece holds the separator. -/
theorem notMem_of_mem_piecesOf {separator : Char} {cs piece : List Char}
    (h : piece ∈ piecesOf separator cs) : separator ∉ piece := by
  induction cs generalizing piece with
  | nil =>
    obtain rfl := List.mem_singleton.1 h
    exact List.not_mem_nil
  | cons c cs ih =>
    rw [piecesOf] at h
    split at h
    · rcases List.mem_cons.1 h with rfl | h
      · exact List.not_mem_nil
      · exact ih h
    · next hc =>
      obtain ⟨first, rest, hpieces⟩ := List.exists_cons_of_ne_nil (piecesOf_ne_nil separator cs)
      rw [hpieces] at h ih
      rcases List.mem_cons.1 h with rfl | h
      · rw [List.mem_cons, not_or]
        exact ⟨Ne.symm hc, ih List.mem_cons_self⟩
      · exact ih (List.mem_cons_of_mem first h)

theorem notMem_of_mem_pieces {separator : Char} {s piece : String}
    (h : piece ∈ pieces separator s) : separator ∉ piece.toList := by
  obtain ⟨cs, hcs, rfl⟩ := List.mem_map.1 h
  rw [String.toList_ofList]
  exact notMem_of_mem_piecesOf hcs

theorem pieces_intercalate {separator : Char} {joint : String} (hjoint : joint.toList = [separator])
    {texts : List String} (hne : texts ≠ []) (h : ∀ text ∈ texts, separator ∉ text.toList) :
    pieces separator (joint.intercalate texts) = texts := by
  have hlists : ∀ l ∈ texts.map String.toList, separator ∉ l := by
    intro l hl
    obtain ⟨text, htext, rfl⟩ := List.mem_map.1 hl
    exact h text htext
  have hback : (texts.map String.toList).map String.ofList = texts := by
    simp [List.map_map, Function.comp_def]
  rw [pieces, String.toList_intercalate, hjoint, piecesOf_eq_splitOn,
    List.splitOn_intercalate separator hlists (by simpa using hne), hback]

/-- Nothing but separators is lost. -/
theorem intercalate_pieces {separator : Char} {joint : String} (hjoint : joint.toList = [separator])
    (s : String) : joint.intercalate (pieces separator s) = s := by
  apply String.toList_inj.1
  have hback : (pieces separator s).map String.toList = s.toList.splitOn separator := by
    rw [pieces, List.map_map, ← piecesOf_eq_splitOn]
    simp [Function.comp_def]
  rw [String.toList_intercalate, hjoint, hback, List.intercalate_splitOn]

end Songbook.Text
