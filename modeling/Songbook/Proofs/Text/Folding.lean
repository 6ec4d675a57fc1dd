import Songbook.Text.Blank
import Songbook.Text.Lower

/-!
# Folded texts

Which texts trimming and lower-casing leave alone. Lower-casing looks at the neighbours of one
letter only, so it keeps a text exactly if it keeps each character of it.
-/

namespace Songbook.Text

/-- A character that lower-casing keeps, whatever its neighbours are. -/
def IsSmall (c : Char) : Prop := c ≠ 'Σ' ∧ lowerChar c = [c]

theorem lowerChar_singleton_or (c : Char) : (∃ d, lowerChar c = [d]) ∨ c = 'İ' := by
  unfold lowerChar
  split
  · exact .inl ⟨_, rfl⟩
  · split
    · next h => exact .inr h
    · split
      · exact .inl ⟨_, rfl⟩
      · exact .inl ⟨_, rfl⟩

theorem lowerSigma_ne_capital (before after : List Char) : lowerSigma before after ≠ 'Σ' := by
  unfold lowerSigma
  split <;> decide

theorem lowerFrom_of_small (before : List Char) {cs : List Char} (h : ∀ c ∈ cs, IsSmall c) :
    lowerFrom before cs = cs := by
  induction cs generalizing before with
  | nil => rfl
  | cons c rest ih =>
    have hc := h c List.mem_cons_self
    rw [lowerFrom, if_neg hc.1, hc.2, ih _ fun d hd => h d (List.mem_cons_of_mem _ hd)]
    rfl

theorem small_of_lowerFrom_eq_self {before cs : List Char} (h : lowerFrom before cs = cs) :
    ∀ c ∈ cs, IsSmall c := by
  induction cs generalizing before with
  | nil => intro c hc; simp at hc
  | cons c rest ih =>
    rw [lowerFrom] at h
    by_cases hs : c = 'Σ'
    · rw [if_pos hs, List.singleton_append, List.cons.injEq] at h
      exact absurd (h.1.trans hs) (lowerSigma_ne_capital _ _)
    · rw [if_neg hs] at h
      rcases lowerChar_singleton_or c with ⟨d, hd⟩ | hd
      · rw [hd, List.singleton_append, List.cons.injEq] at h
        intro e he
        rcases List.mem_cons.1 he with rfl | he
        · exact ⟨hs, hd.trans (by rw [h.1])⟩
        · exact ih h.2 e he
      · subst hd
        -- the capital with a dot becomes two characters, of which it is not the first
        have : ('i' : Char) = 'İ' := (List.cons.inj h).1
        exact absurd this (by decide)

theorem lowerChars_eq_self_iff {cs : List Char} : lowerChars cs = cs ↔ ∀ c ∈ cs, IsSmall c :=
  ⟨small_of_lowerFrom_eq_self, lowerFrom_of_small []⟩

theorem lower_eq_self_iff {s : String} : lower s = s ↔ ∀ c ∈ s.toList, IsSmall c := by
  rw [← lowerChars_eq_self_iff, lower]
  constructor
  · intro h
    have := congrArg String.toList h
    rwa [String.toList_ofList] at this
  · intro h
    rw [h, String.ofList_toList]

theorem isSmall_of_lt_capitals {c : Char} (h : c.toNat < 'A'.toNat) : IsSmall c := by
  have hlow : c.toNat < 0x80 := Nat.lt_trans h (by decide)
  refine ⟨?_, ?_⟩
  · rintro rfl
    exact absurd h (by decide)
  · have hkept : c.toLower = c := by
      apply dif_neg
      intro hcapital
      have hleast : 'A'.toNat ≤ c.toNat := hcapital.1
      omega
    rw [lowerChar, if_pos hlow, hkept]

/-- The printed characters of ASCII are not blank. -/
theorem isBlank_eq_false {c : Char} (hlow : 0x20 < c.toNat) (hhigh : c.toNat < 0x80) :
    isBlank c = false := by
  simp only [isBlank, blankRanges, Ranges.has, List.any_cons, List.any_nil, Bool.or_false,
    Bool.or_eq_false_iff, Bool.and_eq_false_iff, decide_eq_false_iff_not]
  omega

theorem trimStart_eq_self {cs : List Char} (h : ∀ c, cs.head? = some c → isBlank c = false) :
    trimStart cs = cs := by
  cases cs with
  | nil => rfl
  | cons c cs => exact List.dropWhile_cons_of_neg (by simp [h c rfl])

theorem trimChars_eq_self {cs : List Char} (hhead : ∀ c, cs.head? = some c → isBlank c = false)
    (hlast : ∀ c, cs.getLast? = some c → isBlank c = false) : trimChars cs = cs := by
  have hend : trimStart cs.reverse = cs.reverse :=
    trimStart_eq_self (by simpa using hlast)
  rw [trimStart] at hend
  rw [trimChars, trimStart_eq_self hhead, trimEnd, hend, List.reverse_reverse]

theorem length_trimChars_le (cs : List Char) : (trimChars cs).length ≤ cs.length := by
  have hdrop : ∀ ds : List Char, (ds.dropWhile isBlank).length ≤ ds.length := fun ds =>
    (List.dropWhile_sublist isBlank).length_le
  have hend := hdrop (trimStart cs).reverse
  have hstart := hdrop cs
  simp only [trimChars, trimEnd, List.length_reverse, trimStart] at hend ⊢
  omega

/-- A trimmed text does not begin with a blank. -/
theorem head_not_blank {cs : List Char} (h : trimChars cs = cs) :
    ∀ c, cs.head? = some c → isBlank c = false := by
  intro c hc
  cases cs with
  | nil => simp at hc
  | cons d rest =>
    obtain rfl : d = c := by simpa using hc
    refine Bool.eq_false_iff.2 fun hb => ?_
    have hrest : trimChars (d :: rest) = trimChars rest := by
      rw [trimChars, trimStart, List.dropWhile_cons_of_pos hb, trimChars, trimStart]
    have hlen := length_trimChars_le rest
    rw [← hrest, h, List.length_cons] at hlen
    omega

/-- A trimmed text does not end with a blank. -/
theorem last_not_blank {cs : List Char} (h : trimChars cs = cs) :
    ∀ c, cs.getLast? = some c → isBlank c = false := by
  intro c hc
  refine Bool.eq_false_iff.2 fun hb => ?_
  have hstart : trimStart cs = cs := trimStart_eq_self (head_not_blank h)
  rw [trimChars, hstart, trimEnd] at h
  obtain ⟨tail, hrev⟩ := List.head?_eq_some_iff.1 (List.head?_reverse.trans hc)
  rw [hrev, List.dropWhile_cons_of_pos hb] at h
  have hlen := (List.dropWhile_sublist (l := tail) isBlank).length_le
  have hcs := congrArg List.length h
  have hpos := congrArg List.length hrev
  simp only [List.length_reverse, List.length_cons] at hlen hcs hpos
  omega

theorem trim_eq_self_iff {s : String} : trim s = s ↔ trimChars s.toList = s.toList := by
  rw [trim]
  constructor
  · intro h
    have := congrArg String.toList h
    rwa [String.toList_ofList] at this
  · intro h
    rw [h, String.ofList_toList]

end Songbook.Text
