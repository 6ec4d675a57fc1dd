import Songbook.Proofs.Text.Folding

/-!
# Capitals

What lower-casing does to one character, read off the tables. Main statement: a character that it
changes is no blank and no sign, and neither is what it becomes, which lower-casing then keeps.
-/

namespace Songbook.Text

def IsLetterlike (c : Char) : Prop := '@'.toNat < c.toNat ∧ isBlank c = false

def Ranges.isApart (ranges : Ranges) (low high : Nat) : Bool :=
  ranges.all fun range => Nat.blt high range.1 || Nat.blt range.2 low

theorem Ranges.has_eq_false_of_isApart {ranges : Ranges} {low high : Nat} {c : Char}
    (h : ranges.isApart low high = true) (hlow : low ≤ c.toNat) (hhigh : c.toNat ≤ high) :
    ranges.has c = false := by
  refine Bool.eq_false_iff.2 fun hhas => ?_
  obtain ⟨range, hrange, hin⟩ := List.any_eq_true.1 hhas
  have hapart := List.all_eq_true.1 h range hrange
  simp only [Bool.and_eq_true, Bool.or_eq_true, decide_eq_true_eq, Nat.blt_eq] at hin hapart
  omega

namespace CapitalRun

def low (run : CapitalRun) : Nat := (run.first + run.shift).toNat

def high (run : CapitalRun) : Nat := (run.last + run.shift).toNat

/-- The two runs name every second character, one those that the other leaves out. -/
def inTurns (run other : CapitalRun) : Bool :=
  other.step.beq 2 &&
    ((run.step.beq 2 || run.first.beq run.last) && ((run.low + other.first) % 2).beq 1)

def misses (run other : CapitalRun) : Bool :=
  (Nat.blt other.last run.low).or ((Nat.blt run.high other.first).or (run.inTurns other))

/-- The small letters of a run are characters beyond ASCII's signs and capitals. No letter of it is a
blank, and no small one has a rule of its own. -/
def isPlain (run : CapitalRun) : Bool :=
  Nat.blt 0x7F run.first && blankRanges.isApart run.first run.last && Nat.blt 0x60 run.low &&
    (Nat.blt run.high 0xD800 || (Nat.blt 0xDFFF run.low && Nat.blt run.high 0x110000)) &&
    Ranges.isApart ((0x130, 0x130) :: (0x3A3, 0x3A3) :: blankRanges) run.low run.high

end CapitalRun

theorem capitalRuns_miss :
    capitalRuns.all (fun run => capitalRuns.all run.misses) = true := by
  decide +kernel

theorem capitalRuns_plain : capitalRuns.all CapitalRun.isPlain = true := by
  decide +kernel

/-- Within ASCII only the capitals change. -/
theorem ascii_toLower : ∀ code < 0x80, (Char.ofNat code).toLower = Char.ofNat code ∨
    (0x40 < code ∧ code < 0x60) ∧ 0x60 < (Char.ofNat code).toLower.toNat ∧
      (Char.ofNat code).toLower.toNat < 0x80 := by
  decide +kernel

namespace CapitalRun

variable {run other : CapitalRun} {code : Nat}

theorem has_iff : run.has code = true ↔
    run.first ≤ code ∧ code ≤ run.last ∧ (code - run.first) % run.step = 0 := by
  simp [has, and_assoc]

theorem not_has_of_misses (hlow : 0 < run.low) (h : run.misses other = true)
    (hrun : run.has code = true) : other.has (code + run.shift).toNat = false := by
  obtain ⟨hfirst, hlast, hstep⟩ := has_iff.1 hrun
  refine Bool.eq_false_iff.2 fun hother => ?_
  obtain ⟨hfirst', hlast', hstep'⟩ := has_iff.1 hother
  simp only [misses, inTurns, Bool.or_eq_true, Bool.and_eq_true, Nat.blt_eq, Nat.beq_eq, low,
    high] at h hlow
  rcases h with hbelow | habove | ⟨htwo, hturn, hodd⟩
  · omega
  · omega
  · rw [htwo] at hstep'
    rcases hturn with htwo' | hone
    · rw [htwo'] at hstep
      omega
    · omega

end CapitalRun

theorem toLower_cases {c : Char} (h : c.toNat < 0x80) : c.toLower = c ∨
    (0x40 < c.toNat ∧ c.toNat < 0x60) ∧ 0x60 < c.toLower.toNat ∧ c.toLower.toNat < 0x80 := by
  simpa only [Char.ofNat_toNat] using ascii_toLower c.toNat h

theorem isSmall_of_ascii {c : Char} (hlow : 0x60 < c.toNat) (hhigh : c.toNat < 0x80) :
    IsSmall c := by
  refine ⟨?_, ?_⟩
  · rintro rfl
    exact absurd hhigh (by decide)
  · have hkept : c.toLower = c := (toLower_cases hhigh).resolve_right (by omega)
    rw [lowerChar, if_pos hhigh, hkept]

/-- A capital of a run and the small letter that it becomes. -/
theorem CapitalRun.lower_of_has {run : CapitalRun} {c : Char} (hmem : run ∈ capitalRuns)
    (hrun : run.has c.toNat = true) :
    IsLetterlike c ∧ IsLetterlike (Char.ofNat (c.toNat + run.shift).toNat) ∧
      IsSmall (Char.ofNat (c.toNat + run.shift).toNat) := by
  obtain ⟨hfirst, hlast, -⟩ := has_iff.1 hrun
  have hplain := List.all_eq_true.1 capitalRuns_plain run hmem
  simp only [isPlain, Ranges.isApart, List.all_cons, Bool.and_eq_true, Bool.or_eq_true,
    Nat.blt_eq] at hplain
  obtain ⟨⟨⟨⟨hascii, hblank⟩, hlow⟩, hvalid⟩, hdotted, hsigma, hblank'⟩ := hplain
  let d := Char.ofNat (c.toNat + run.shift).toNat
  have hcode : d.toNat = (c.toNat + run.shift).toNat := by
    have hchar : (c.toNat + run.shift).toNat.isValidChar := by
      simp only [Nat.isValidChar, low, high] at hvalid hlow ⊢
      omega
    change (Char.ofNat (c.toNat + run.shift).toNat).toNat = _
    rw [Char.ofNat, dif_pos hchar]
    rfl
  have hbounds : run.low ≤ d.toNat ∧ d.toNat ≤ run.high := by
    rw [hcode, low, high]
    omega
  have hmiss : capitalRuns.find? (·.has d.toNat) = none := by
    refine List.find?_eq_none.2 fun other hother => ?_
    have hmisses := List.all_eq_true.1 (List.all_eq_true.1 capitalRuns_miss run hmem) other hother
    rw [hcode, not_has_of_misses (by omega) hmisses hrun]
    exact Bool.false_ne_true
  refine ⟨⟨?_, ?_⟩, ⟨?_, ?_⟩, ?_⟩
  · exact Nat.lt_of_lt_of_le (Nat.lt_trans (by decide) hascii) hfirst
  · exact Ranges.has_eq_false_of_isApart hblank hfirst hlast
  · exact Nat.lt_of_lt_of_le (Nat.lt_trans (by decide) hlow) hbounds.1
  · exact Ranges.has_eq_false_of_isApart hblank' hbounds.1 hbounds.2
  · by_cases hd : d.toNat < 0x80
    · exact isSmall_of_ascii (Nat.lt_of_lt_of_le hlow hbounds.1) hd
    · have hne : ∀ e : Char, run.high < e.toNat ∨ e.toNat < run.low → d ≠ e := by
        rintro e he rfl
        omega
      refine ⟨hne 'Σ' hsigma, ?_⟩
      rw [lowerChar, if_neg hd, if_neg (hne 'İ' hdotted), hmiss]

/-- A character that lower-casing changes is letterlike, and so is what it becomes, which
lower-casing keeps. -/
theorem lowerChar_cases (c : Char) : lowerChar c = [c] ∨
    IsLetterlike c ∧ ∀ d ∈ lowerChar c, IsLetterlike d ∧ IsSmall d := by
  by_cases hascii : c.toNat < 0x80
  · rcases toLower_cases hascii with hkept | ⟨hcapital, hlow, hhigh⟩
    · left
      rw [lowerChar, if_pos hascii, hkept]
    · right
      rw [lowerChar, if_pos hascii]
      refine ⟨⟨hcapital.1, isBlank_eq_false (by omega) hascii⟩, ?_⟩
      intro d hd
      obtain rfl := List.mem_singleton.1 hd
      exact ⟨⟨Nat.lt_trans (by decide) hlow, isBlank_eq_false (by omega) hhigh⟩,
        isSmall_of_ascii hlow hhigh⟩
  · by_cases hdotted : c = 'İ'
    · right
      subst hdotted
      have hpair : lowerChar 'İ' = ['i', '\u0307'] := rfl
      refine ⟨⟨by decide, by decide⟩, ?_⟩
      rw [hpair]
      intro d hd
      have hd' : d = 'i' ∨ d = '\u0307' := by simpa using hd
      rcases hd' with rfl | rfl
      · exact ⟨⟨by decide, by decide⟩, by decide, by decide⟩
      · exact ⟨⟨by decide, by decide⟩, by decide, by decide +kernel⟩
    · cases hfind : capitalRuns.find? (·.has c.toNat) with
      | none =>
        left
        rw [lowerChar, if_neg hascii, if_neg hdotted, hfind]
      | some run =>
        right
        have hhas : run.has c.toNat = true :=
          List.find?_some (p := fun other : CapitalRun => other.has c.toNat) hfind
        obtain ⟨hc, hd⟩ := CapitalRun.lower_of_has (List.mem_of_find?_eq_some hfind) hhas
        rw [lowerChar, if_neg hascii, if_neg hdotted, hfind]
        exact ⟨hc, fun d hmem => List.mem_singleton.1 hmem ▸ hd⟩

end Songbook.Text
