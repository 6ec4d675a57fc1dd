import Songbook.Calendar

/-!
# Days of the calendar

The number of a day against the calendar itself, in which one day follows another. Main statements:
numbers of days are in the order of the days, and the difference of two numbers is how often the
calendar goes on from one day to the other.
-/

namespace Songbook.Calendar

theorem daysInMonth_bounds (year month : Nat) :
    28 ≤ daysInMonth year month ∧ daysInMonth year month ≤ 31 := by
  unfold daysInMonth
  split
  · split <;> omega
  · split <;> omega

def daysInYear (year : Nat) : Nat := if isLeapYear year then 366 else 365

theorem isLeapYear_iff {year : Nat} : isLeapYear year = true ↔
    year % 4 = 0 ∧ (year % 100 ≠ 0 ∨ year % 400 = 0) := by
  simp [isLeapYear]

theorem daysBeforeYear_succ (year : Nat) :
    daysBeforeYear (year + 1) = daysBeforeYear year + daysInYear year := by
  have hfours : (year + 1 + 3) / 4 = (year + 3) / 4 + if year % 4 = 0 then 1 else 0 := by
    split <;> omega
  have hhundreds : (year + 1 + 99) / 100 = (year + 99) / 100 + if year % 100 = 0 then 1 else 0 := by
    split <;> omega
  have hlongs : (year + 1 + 399) / 400 = (year + 399) / 400 + if year % 400 = 0 then 1 else 0 := by
    split <;> omega
  have hfew : (year + 99) / 100 ≤ 365 * year := by omega
  have hhundred : year % 100 = 0 → year % 4 = 0 := by omega
  have hlong : year % 400 = 0 → year % 100 = 0 := by omega
  simp only [daysBeforeYear, daysInYear, isLeapYear_iff, hfours, hhundreds, hlongs]
  -- only how often the three kinds of year came before counts from here on
  clear hfours hhundreds hlongs
  generalize (year + 99) / 100 = hundreds at hfew ⊢
  generalize (year + 3) / 4 = fours
  generalize (year + 399) / 400 = longs
  generalize year % 4 = four at hhundred ⊢
  generalize year % 100 = hundred at hhundred hlong ⊢
  generalize year % 400 = long at hlong ⊢
  split <;> split <;> split <;> split <;> omega

theorem daysBeforeMonth_one (year : Nat) : daysBeforeMonth year 1 = 0 := rfl

theorem daysBeforeMonth_succ (year : Nat) {month : Nat} (h : 1 ≤ month) :
    daysBeforeMonth year (month + 1) = daysBeforeMonth year month + daysInMonth year month := by
  obtain ⟨before, rfl⟩ : ∃ before, month = before + 1 := ⟨month - 1, by omega⟩
  rw [daysBeforeMonth, daysBeforeMonth, Nat.add_sub_cancel, Nat.add_sub_cancel, List.range'_concat,
    List.foldl_append, Nat.one_mul, Nat.add_comm 1 before]
  rfl

theorem daysBeforeMonth_end (year : Nat) : daysBeforeMonth year 13 = daysInYear year := by
  have hmonths : daysBeforeMonth year 13 = 306 + daysInMonth year 2 + 31 := by
    change 0 + 31 + daysInMonth year 2 + 31 + 30 + 31 + 30 + 31 + 31 + 30 + 31 + 30 + 31 = _
    omega
  rw [hmonths, daysInMonth, if_pos rfl, daysInYear]
  cases isLeapYear year <;> rfl

theorem daysBeforeYear_mono {a b : Nat} (h : a ≤ b) : daysBeforeYear a ≤ daysBeforeYear b := by
  induction h with
  | refl => exact Nat.le_refl _
  | step _ ih =>
    rw [daysBeforeYear_succ]
    omega

theorem daysBeforeMonth_mono (year : Nat) {a b : Nat} (ha : 1 ≤ a) (h : a ≤ b) :
    daysBeforeMonth year a ≤ daysBeforeMonth year b := by
  induction h with
  | refl => exact Nat.le_refl _
  | step hle ih =>
    rw [daysBeforeMonth_succ year (Nat.le_trans ha hle)]
    omega

namespace Day

theorem isValid_iff {d : Day} : d.isValid = true ↔
    (1 ≤ d.month ∧ d.month ≤ 12) ∧ 1 ≤ d.day ∧ d.day ≤ daysInMonth d.year d.month := by
  simp [isValid, and_assoc]

def next (d : Day) : Day :=
  if d.day < daysInMonth d.year d.month then { d with day := d.day + 1 }
  else if d.month < 12 then { d with month := d.month + 1, day := 1 }
  else { year := d.year + 1, month := 1, day := 1 }

def later (d : Day) : Nat → Day
  | 0 => d
  | days + 1 => (d.later days).next

/-- The days from one day to another; negative if the other comes before. -/
def DaysTo (first last : Day) (days : Int) : Prop :=
  (∃ count : Nat, days = count ∧ first.later count = last) ∨
    ∃ count : Nat, days = -count ∧ last.later count = first

def Before (first last : Day) : Prop :=
  first.year < last.year ∨ first.year = last.year ∧
    (first.month < last.month ∨ first.month = last.month ∧ first.day < last.day)

def epoch : Day := { year := 1970, month := 1, day := 1 }

variable {d first last : Day}

theorem isValid_next (h : d.isValid = true) : d.next.isValid = true := by
  obtain ⟨⟨hmonth, hmonth'⟩, hday, hday'⟩ := isValid_iff.1 h
  unfold next
  split
  · exact isValid_iff.2 ⟨⟨hmonth, hmonth'⟩, by simp, by simp; omega⟩
  · split
    · have hbounds := daysInMonth_bounds d.year (d.month + 1)
      exact isValid_iff.2 ⟨⟨by simp, by simp; omega⟩, by simp, by simp; omega⟩
    · have hbounds := daysInMonth_bounds (d.year + 1) 1
      exact isValid_iff.2 ⟨⟨by simp, by simp⟩, by simp, by simp; omega⟩

theorem number_next (h : d.isValid = true) : d.next.number = d.number + 1 := by
  obtain ⟨⟨hmonth, hmonth'⟩, hday, hday'⟩ := isValid_iff.1 h
  unfold next
  split
  · simp only [number]
    omega
  · have hlast : d.day = daysInMonth d.year d.month := by omega
    have hsucc := daysBeforeMonth_succ d.year hmonth
    split
    · simp only [number]
      omega
    · have hdecember : d.month = 12 := by omega
      rw [hdecember] at hsucc hlast
      have hend : daysBeforeMonth d.year (12 + 1) = daysInYear d.year :=
        daysBeforeMonth_end d.year
      have hyear := daysBeforeYear_succ d.year
      have hfirst := daysBeforeMonth_one (d.year + 1)
      simp only [number, hdecember]
      omega

theorem day_next_eq_one_iff (h : d.isValid = true) :
    d.next.day = 1 ↔ d.day = daysInMonth d.year d.month := by
  obtain ⟨-, hday, hday'⟩ := isValid_iff.1 h
  unfold next
  split
  · simp only
    omega
  · split
    · exact iff_of_true rfl (by omega)
    · exact iff_of_true rfl (by omega)

theorem later_valid_number (h : d.isValid = true) (count : Nat) :
    (d.later count).isValid = true ∧ (d.later count).number = d.number + count := by
  induction count with
  | zero => exact ⟨h, (Int.add_zero _).symm⟩
  | succ count ih =>
    refine ⟨isValid_next ih.1, ?_⟩
    rw [later, number_next ih.1, ih.2]
    omega

def place (d : Day) : Nat := daysBeforeMonth d.year d.month + d.day

theorem number_eq (d : Day) :
    d.number = (daysBeforeYear d.year + d.place : Nat) - (daysBeforeYear 1970 + 1 : Nat) := by
  rw [number, place, Nat.add_assoc]

theorem place_bounds (h : d.isValid = true) : 1 ≤ d.place ∧ d.place ≤ daysInYear d.year := by
  obtain ⟨⟨hmonth, hmonth'⟩, hday, hday'⟩ := isValid_iff.1 h
  have hsucc := daysBeforeMonth_succ d.year hmonth
  have hmono := daysBeforeMonth_mono d.year (by omega) (show d.month + 1 ≤ 13 by omega)
  rw [daysBeforeMonth_end] at hmono
  unfold place
  omega

theorem number_lt_of_before (hfirst : first.isValid = true) (hlast : last.isValid = true)
    (h : first.Before last) : first.number < last.number := by
  rw [number_eq, number_eq]
  rcases h with hyear | ⟨hyear, hmonth | ⟨hmonth, hday⟩⟩
  · have hend := (place_bounds hfirst).2
    have hstart := (place_bounds hlast).1
    have hsucc := daysBeforeYear_succ first.year
    have hmono := daysBeforeYear_mono hyear
    rw [Nat.succ_eq_add_one] at hmono
    omega
  · obtain ⟨⟨hone, -⟩, -, hend⟩ := isValid_iff.1 hfirst
    obtain ⟨-, hstart, -⟩ := isValid_iff.1 hlast
    have hsucc := daysBeforeMonth_succ first.year hone
    have hmono := daysBeforeMonth_mono first.year (by omega) hmonth
    rw [Nat.succ_eq_add_one] at hmono
    simp only [place, ← hyear]
    omega
  · simp only [place, ← hyear, ← hmonth]
    omega

theorem before_or_eq_or_before (first last : Day) :
    first.Before last ∨ first = last ∨ last.Before first := by
  have heq : first.year = last.year → first.month = last.month → first.day = last.day →
      first = last := by
    intro hyear hmonth hday
    cases first
    cases last
    cases hyear
    cases hmonth
    cases hday
    rfl
  unfold Before
  by_cases hyear : first.year = last.year
  · by_cases hmonth : first.month = last.month
    · by_cases hday : first.day = last.day
      · exact .inr (.inl (heq hyear hmonth hday))
      · omega
    · omega
  · omega

theorem eq_of_number_eq (hfirst : first.isValid = true) (hlast : last.isValid = true)
    (h : first.number = last.number) : first = last := by
  rcases before_or_eq_or_before first last with hbefore | heq | hbefore
  · have hlt := number_lt_of_before hfirst hlast hbefore
    omega
  · exact heq
  · have hlt := number_lt_of_before hlast hfirst hbefore
    omega

theorem later_eq_iff (hfirst : first.isValid = true) (hlast : last.isValid = true) (count : Nat) :
    first.later count = last ↔ last.number = first.number + count := by
  obtain ⟨hvalid, hnumber⟩ := later_valid_number hfirst count
  constructor
  · rintro rfl
    exact hnumber
  · intro h
    exact eq_of_number_eq hvalid hlast (hnumber.trans h.symm)

/-- The days from one day to another are the difference of their numbers. -/
theorem daysTo_iff (hfirst : first.isValid = true) (hlast : last.isValid = true) (days : Int) :
    first.DaysTo last days ↔ last.number = first.number + days := by
  unfold DaysTo
  simp only [later_eq_iff hfirst hlast, later_eq_iff hlast hfirst]
  constructor
  · rintro (⟨count, rfl, h⟩ | ⟨count, rfl, h⟩)
    · exact h
    · omega
  · intro h
    rcases Int.le_total 0 days with hpos | hneg
    · exact .inl ⟨days.toNat, by omega, by omega⟩
    · exact .inr ⟨(-days).toNat, by omega, by omega⟩

theorem daysTo_epoch_iff (h : d.isValid = true) (days : Int) :
    epoch.DaysTo d days ↔ days = d.number := by
  have hepoch : epoch.number = 0 := by decide
  rw [daysTo_iff (by decide) h, hepoch, Int.zero_add, eq_comm]

theorem exists_daysTo_epoch (h : d.isValid = true) : ∃ days, epoch.DaysTo d days :=
  ⟨d.number, (daysTo_epoch_iff h _).2 rfl⟩

/-- The number of a day of four digits for its year. -/
theorem number_bounds (h : d.isValid = true) (hyear : d.year < 10000) :
    -719528 ≤ d.number ∧ d.number ≤ 2932896 := by
  have hplace := place_bounds h
  have hsucc := daysBeforeYear_succ d.year
  have hmono := daysBeforeYear_mono (show d.year + 1 ≤ 10000 by omega)
  have hfirst : daysBeforeYear 10000 = 3652425 := by decide
  have hepoch : daysBeforeYear 1970 = 719528 := by decide
  rw [number_eq]
  omega

end Day

end Songbook.Calendar
