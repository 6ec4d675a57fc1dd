import Songbook.Number.Decimal
import Songbook.Proofs.Number.Integers
import Songbook.Proofs.Number.Reading

/-!
# The double nearest to a natural number

What rounding makes of a natural number, as a natural number. Main statement: the digits of a
natural number are read as a double that is whole, and it is the number itself exactly if the bits
beyond the first 53 are zero.
-/

namespace Songbook.Double

open Number

def rounded (n : Nat) : Nat :=
  roundHalfEven n (twoTo (shiftOf n)) * twoTo (shiftOf n)

theorem unitsOfRank_shifted {shift m : Nat} (hlow : shift = 0 ∨ binade ≤ m)
    (hhigh : m ≤ 2 * binade) : unitsOfRank (shift * binade + m) = m * twoTo shift := by
  have hbinade : 0 < binade := by decide
  unfold unitsOfRank
  by_cases hsmall : m < binade
  · obtain rfl : shift = 0 := hlow.resolve_right (by omega)
    rw [Nat.zero_mul, Nat.zero_add, if_pos hsmall]
    exact (Nat.mul_one m).symm
  · have hlarge : ¬ shift * binade + m < binade := by omega
    rw [if_neg hlarge]
    rcases Nat.lt_or_eq_of_le hhigh with hlt | rfl
    · have hsplit : shift * binade + m = (m - binade) + (shift + 1) * binade := by
        rw [Nat.add_mul]
        omega
      have hrest : m - binade < binade := by omega
      rw [hsplit, Nat.add_mul_mod_self_right, Nat.add_mul_div_right _ _ hbinade,
        Nat.mod_eq_of_lt hrest, Nat.div_eq_of_lt hrest]
      have hm : binade + (m - binade) = m := by omega
      rw [hm, Nat.zero_add, Nat.add_sub_cancel]
    · -- rounding up has reached the next power of two
      rw [← Nat.add_mul, Nat.mul_mod_left, Nat.mul_div_cancel _ hbinade]
      change (binade + 0) * twoTo (shift + 1) = _
      rw [twoTo_succ, Nat.add_zero, Nat.mul_comm 2 binade, Nat.mul_assoc, Nat.mul_comm 2]

theorem roundHalfEven_le_two_binades (n : Nat) :
    roundHalfEven n (twoTo (shiftOf n)) ≤ 2 * binade := by
  have hshifted := shifted_lt n
  have hround := roundHalfEven_le n (twoTo (shiftOf n))
  omega

theorem binade_le_roundHalfEven {n : Nat} (h : 0 < shiftOf n) :
    binade ≤ roundHalfEven n (twoTo (shiftOf n)) :=
  Nat.le_trans (binade_le_shifted h) (div_le_roundHalfEven n _)

theorem unitsOfRank_rankOfUnits (units : Nat) :
    unitsOfRank (rankOfUnits units 1) = rounded units := by
  rw [rankOfUnits_one]
  apply unitsOfRank_shifted _ (roundHalfEven_le_two_binades units)
  rcases Nat.eq_zero_or_pos (shiftOf units) with hzero | hpos
  · exact .inl hzero
  · exact .inr (binade_le_roundHalfEven hpos)

theorem rounded_mono {a b : Nat} (h : a ≤ b) : rounded a ≤ rounded b := by
  rcases Nat.lt_or_eq_of_le (shiftOf_mono h) with hlt | heq
  · have hpow : twoTo (shiftOf a + 1) ≤ twoTo (shiftOf b) :=
      Nat.le_of_dvd (twoTo_pos _) (twoTo_dvd hlt)
    calc
      rounded a ≤ 2 * binade * twoTo (shiftOf a) :=
        Nat.mul_le_mul_right _ (roundHalfEven_le_two_binades a)
      _ = binade * twoTo (shiftOf a + 1) := by
        rw [twoTo_succ, Nat.mul_comm 2 binade, Nat.mul_assoc, Nat.mul_comm 2]
      _ ≤ binade * twoTo (shiftOf b) := Nat.mul_le_mul_left _ hpow
      _ ≤ rounded b := Nat.mul_le_mul_right _ (binade_le_roundHalfEven (by omega))
  · rw [rounded, rounded, heq]
    exact Nat.mul_le_mul_right _ (roundHalfEven_mono h _)

theorem rounded_eq_self_iff {n : Nat} : rounded n = n ↔ IsExact n := by
  constructor
  · intro h
    exact ⟨_, by rw [Nat.mul_comm]; exact h.symm⟩
  · intro h
    rw [rounded, roundHalfEven_of_dvd (twoTo_pos _) h, Nat.div_mul_cancel h]

theorem rounded_eq_zero_iff {n : Nat} : rounded n = 0 ↔ n = 0 := by
  constructor
  · intro h
    have hone : rounded 1 = 1 := by decide +kernel
    rcases Nat.eq_zero_or_pos n with hzero | hpos
    · exact hzero
    · have hle : rounded 1 ≤ rounded n := rounded_mono hpos
      omega
  · rintro rfl
    decide +kernel

section Scaled

theorem roundHalfEven_mul_right (num den : Nat) {k : Nat} (hk : 0 < k) :
    roundHalfEven (num * k) (den * k) = roundHalfEven num den := by
  have hless : den * k < 2 * (num % den * k) ↔ den < 2 * (num % den) := by
    rw [← Nat.mul_assoc]
    exact Nat.mul_lt_mul_right hk
  have hhalf : 2 * (num % den * k) = den * k ↔ 2 * (num % den) = den := by
    rw [← Nat.mul_assoc]
    exact Nat.mul_left_inj (Nat.ne_of_gt hk)
  unfold roundHalfEven
  rw [Nat.mul_div_mul_right _ _ hk, Nat.mul_mod_mul_right]
  simp only [hless, hhalf]

theorem log2_mul_twoTo {n : Nat} (hn : n ≠ 0) (k : Nat) : (n * twoTo k).log2 = n.log2 + k := by
  have hne : n * twoTo k ≠ 0 := Nat.mul_ne_zero hn (Nat.ne_of_gt (twoTo_pos k))
  have hlow : twoTo n.log2 * twoTo k ≤ n * twoTo k :=
    Nat.mul_le_mul_right _ (Nat.log2_self_le hn)
  have hhigh : n * twoTo k < twoTo (n.log2 + 1) * twoTo k :=
    Nat.mul_lt_mul_of_pos_right Nat.lt_log2_self (twoTo_pos k)
  rw [← twoTo_add] at hlow hhigh
  rw [Nat.add_right_comm] at hhigh
  exact (Nat.log2_eq_iff hne).2 ⟨hlow, hhigh⟩

/-- Zeros after the last bit have no part in rounding. -/
theorem rounded_mul_twoTo (n k : Nat) : rounded (n * twoTo k) = rounded n * twoTo k := by
  by_cases hzero : n = 0
  · rw [hzero, Nat.zero_mul, rounded_eq_zero_iff.2 rfl, Nat.zero_mul]
  · have hlog := log2_mul_twoTo hzero k
    by_cases hshift : shiftOf n = 0
    · have hexact : IsExact n := by
        rw [IsExact, hshift]
        exact Nat.one_dvd n
      have hexact' : IsExact (n * twoTo k) := by
        have hle : shiftOf (n * twoTo k) ≤ k := by
          unfold shiftOf at hshift ⊢
          omega
        exact Nat.dvd_trans (twoTo_dvd hle) (Nat.dvd_mul_left _ _)
      rw [rounded_eq_self_iff.2 hexact, rounded_eq_self_iff.2 hexact']
    · have hsum : shiftOf (n * twoTo k) = shiftOf n + k := by
        unfold shiftOf at hshift ⊢
        omega
      rw [rounded, hsum, twoTo_add, roundHalfEven_mul_right _ _ (twoTo_pos k), rounded,
        Nat.mul_assoc]

end Scaled

section Whole

variable {rank units n : Nat}

theorem toNat?_signed (negative : Bool) (hle : rank ≤ infinityRank) :
    (signed negative rank hle).toNat? =
      if rank = infinityRank ∨ (negative = true ∧ rank ≠ 0) ∨ unitsOfRank rank % unitsInOne ≠ 0
      then none else some (unitsOfRank rank / unitsInOne) := rfl

theorem toNat?_ofRank (hrank : rank < infinityRank)
    (hunits : unitsOfRank rank = units * unitsInOne) :
    (ofRank false rank).toNat? = some units := by
  have hmin : min rank infinityRank = rank := by omega
  have hone : 0 < unitsInOne := twoTo_pos 1074
  rw [ofRank, toNat?_signed, hmin, hunits, Nat.mul_mod_left, Nat.mul_div_cancel _ hone, if_neg]
  rintro (hinfinity | ⟨hnegative, -⟩ | hrest)
  · omega
  · cases hnegative
  · exact hrest rfl

theorem toNat?_infinity (hrank : infinityRank ≤ rank) : (ofRank false rank).toNat? = none := by
  have hmin : min rank infinityRank = infinityRank := by omega
  rw [ofRank, toNat?_signed, if_pos (.inl hmin)]

/-- The nearest double of a natural number that is not beyond all doubles is a natural number. -/
theorem toNat?_ofRatio_one (h : rankOfNat n < infinityRank) :
    (ofRatio false n 1).toNat? = some (rounded n) := by
  have hunits : unitsOfRank (rankOfNat n) = rounded n * unitsInOne :=
    (unitsOfRank_rankOfUnits _).trans (rounded_mul_twoTo n 1074)
  exact toNat?_ofRank h hunits

end Whole

end Songbook.Double

namespace Songbook.Number

variable {digits : List Nat} {sign : List Char}

theorem takeDigits_digitChars (h : ∀ d ∈ digits, d < 10) :
    takeDigits (digitChars digits) = (digits, []) := by
  have htake := takeDigits_append h takeDigits.eq_1
  rwa [List.append_nil] at htake

theorem isDigit_of_mem_digitChars (h : ∀ d ∈ digits, d < 10) :
    ∀ c ∈ digitChars digits, c.isDigit = true :=
  isDigit_of_takeDigits (by rw [takeDigits_digitChars h])

theorem takeSign_digitChars (hsign : sign = [] ∨ sign = ['+']) (h : ∀ d ∈ digits, d < 10) :
    takeSign (sign ++ digitChars digits) = (false, digitChars digits) := by
  rcases hsign with rfl | rfl
  · exact takeSign_of_isDigit (isDigit_of_mem_digitChars h)
  · rfl

/-- No name of a double begins with a digit. -/
theorem ofList_toLower_ne {c : Char} {cs : List Char} (hc : c.isDigit = true) {word : String}
    (hword : word.toList.head?.any Char.isDigit = false) :
    String.ofList ((c :: cs).map Char.toLower) ≠ word := by
  rintro rfl
  have hsmall : c.toLower = c := by
    rw [Char.isDigit, Bool.and_eq_true, decide_eq_true_eq, decide_eq_true_eq] at hc
    have hcapital : ¬ (c.val ≥ 'A'.val ∧ c.val ≤ 'Z'.val) := fun h =>
      absurd (UInt32.le_trans h.1 hc.2) (by decide)
    exact dif_neg hcapital
  rw [String.toList_ofList, List.map_cons, List.head?_cons, Option.any_some, hsmall, hc] at hword
  cases hword

theorem toDouble_whole (digits : List Nat) :
    Decimal.toDouble ⟨false, digits, 0⟩ = .ofRatio false (ofDigits digits) 1 := by
  have hlength : ¬ (digits.length : Int) + 0 < -400 := by omega
  by_cases hzero : ofDigits digits = 0
  · have hrank : 0 = Double.rankOfUnits 0 1 := by decide +kernel
    rw [Decimal.toDouble, if_pos (.inl hzero), hzero, Double.ofRatio, Nat.zero_mul, ← hrank]
  · have hvalue : ¬ (ofDigits digits = 0 ∨ (digits.length : Int) + 0 < -400) :=
      not_or.2 ⟨hzero, hlength⟩
    have hlarge : ¬ (0 : Int) > 400 := by decide
    have hsmall : ¬ (0 : Int) < 0 := by decide
    rw [Decimal.toDouble, if_neg hvalue, if_neg hlarge, if_neg hsmall]
    exact congrArg (Double.ofRatio false · 1) (Nat.mul_one _)

theorem readDouble?_digits (hsign : sign = [] ∨ sign = ['+']) (hne : digits ≠ [])
    (h : ∀ d ∈ digits, d < 10) :
    readDouble? (sign ++ digitChars digits) = some (.ofRatio false (ofDigits digits) 1) := by
  obtain ⟨d, rest, rfl⟩ := List.exists_cons_of_ne_nil hne
  have hfirst : (digitChar d).isDigit = true :=
    isDigit_of_digit? (digit?_digitChar (h d List.mem_cons_self))
  have hword (word : String) (hword : word.toList.head?.any Char.isDigit = false) :
      String.ofList ((digitChars (d :: rest)).map Char.toLower) ≠ word :=
    ofList_toLower_ne hfirst hword
  have hdecimal : readDecimal? false (digitChars (d :: rest)) = some ⟨false, d :: rest, 0⟩ := by
    rw [readDecimal?, takeDigits_digitChars h]
    simp [readPower?]
  rw [readDouble?, takeSign_digitChars hsign h]
  simp only [if_neg (hword "nan" (by decide)), hword "inf" (by decide),
    hword "infinity" (by decide), or_self, if_false, hdecimal, Option.map_some, toDouble_whole]

end Songbook.Number
