import Songbook.Number.Double

/-!
# Integers as doubles

Rounding a number to a double never turns the order of two numbers round. Main statements: a larger
integer has no smaller place among the doubles, and integers of up to 53 bits have different places.
-/

namespace Songbook.Double

open Number

theorem div_le_roundHalfEven (num den : Nat) : num / den ≤ roundHalfEven num den := by
  unfold roundHalfEven
  split <;> omega

theorem roundHalfEven_le (num den : Nat) : roundHalfEven num den ≤ num / den + 1 := by
  unfold roundHalfEven
  split <;> omega

theorem roundHalfEven_of_dvd {num den : Nat} (hden : 0 < den) (h : den ∣ num) :
    roundHalfEven num den = num / den := by
  have hrem := Nat.mod_eq_zero_of_dvd h
  unfold roundHalfEven
  rw [hrem]
  split <;> omega

theorem roundHalfEven_mono {a b : Nat} (h : a ≤ b) (den : Nat) :
    roundHalfEven a den ≤ roundHalfEven b den := by
  have hquot : a / den ≤ b / den := Nat.div_le_div_right h
  rcases Nat.lt_or_eq_of_le hquot with hlt | heq
  · calc
      roundHalfEven a den ≤ a / den + 1 := roundHalfEven_le a den
      _ ≤ b / den := hlt
      _ ≤ roundHalfEven b den := div_le_roundHalfEven b den
  · -- Between equal quotients the remainders decide.
    have hrem : a % den ≤ b % den := by
      have ha := Nat.div_add_mod a den
      have hb := Nat.div_add_mod b den
      rw [heq] at ha
      omega
    unfold roundHalfEven
    rw [heq]
    split <;> split <;> omega

/-- How many low bits of a number of units a double has no room for. -/
def shiftOf (units : Nat) : Nat := units.log2 - 52

theorem rankOfUnits_one (units : Nat) : rankOfUnits units 1 =
    shiftOf units * binade + roundHalfEven units (twoTo (shiftOf units)) := by
  unfold rankOfUnits
  simp only [Nat.div_one, Nat.one_mul, shiftOf]

theorem log2_mono {a b : Nat} (h : a ≤ b) : a.log2 ≤ b.log2 := by
  by_cases hzero : a = 0
  · rw [hzero]
    exact Nat.zero_le _
  · exact (Nat.le_log2 (by omega)).2 (Nat.le_trans (Nat.log2_self_le hzero) h)

theorem shiftOf_mono {a b : Nat} (h : a ≤ b) : shiftOf a ≤ shiftOf b :=
  Nat.sub_le_sub_right (log2_mono h) 52

theorem shiftOf_le {units k : Nat} (h : units < twoTo (53 + k)) : shiftOf units ≤ k := by
  by_cases hzero : units = 0
  · rw [hzero]
    exact Nat.zero_le k
  · have hlog : units.log2 < 53 + k := (Nat.log2_lt hzero).2 h
    unfold shiftOf
    omega

section Shifted

variable (units : Nat)

theorem shifted_lt : units / twoTo (shiftOf units) < 2 * binade := by
  apply (Nat.div_lt_iff_lt_mul (twoTo_pos _)).2
  have hpow : 2 * binade * twoTo (shiftOf units) = twoTo (53 + shiftOf units) :=
    (twoTo_add 53 (shiftOf units)).symm
  have hexponent : units.log2 + 1 ≤ 53 + shiftOf units := by
    unfold shiftOf
    omega
  rw [hpow]
  exact Nat.lt_of_lt_of_le Nat.lt_log2_self (Nat.pow_le_pow_right (by decide) hexponent)

variable {units}

theorem binade_le_shifted (h : 0 < shiftOf units) :
    binade ≤ units / twoTo (shiftOf units) := by
  apply (Nat.le_div_iff_mul_le (twoTo_pos _)).2
  have hpow : binade * twoTo (shiftOf units) = twoTo (52 + shiftOf units) :=
    (twoTo_add 52 (shiftOf units)).symm
  have hexponent : 52 + shiftOf units = units.log2 := by
    unfold shiftOf at h ⊢
    omega
  have hzero : units ≠ 0 := by
    rintro rfl
    exact absurd h (by decide)
  rw [hpow, hexponent]
  exact Nat.log2_self_le hzero

theorem le_rankOfUnits (h : 0 < shiftOf units) :
    (shiftOf units + 1) * binade ≤ rankOfUnits units 1 := by
  have hshifted := binade_le_shifted h
  have hround := div_le_roundHalfEven units (twoTo (shiftOf units))
  rw [rankOfUnits_one, Nat.add_mul, Nat.one_mul]
  omega

theorem rankOfUnits_le : rankOfUnits units 1 ≤ (shiftOf units + 2) * binade := by
  have hshifted := shifted_lt units
  have hround := roundHalfEven_le units (twoTo (shiftOf units))
  rw [rankOfUnits_one, Nat.add_mul]
  omega

end Shifted

/-- Between different shifts the ranks meet at most at a power of two. -/
theorem rankOfUnits_mono {a b : Nat} (h : a ≤ b) : rankOfUnits a 1 ≤ rankOfUnits b 1 := by
  rcases Nat.lt_or_eq_of_le (shiftOf_mono h) with hlt | heq
  · calc
      rankOfUnits a 1 ≤ (shiftOf a + 2) * binade := rankOfUnits_le
      _ ≤ (shiftOf b + 1) * binade := Nat.mul_le_mul_right _ (by omega)
      _ ≤ rankOfUnits b 1 := le_rankOfUnits (by omega)
  · rw [rankOfUnits_one, rankOfUnits_one, heq]
    exact Nat.add_le_add_left (roundHalfEven_mono h _) _

def IsExact (units : Nat) : Prop := twoTo (shiftOf units) ∣ units

theorem IsExact.rankOfUnits_eq {units : Nat} (h : IsExact units) :
    rankOfUnits units 1 = shiftOf units * binade + units / twoTo (shiftOf units) := by
  rw [rankOfUnits_one, roundHalfEven_of_dvd (twoTo_pos _) h]

theorem rankOfUnits_lt {a b : Nat} (ha : IsExact a) (hb : IsExact b) (h : a < b) :
    rankOfUnits a 1 < rankOfUnits b 1 := by
  rcases Nat.lt_or_eq_of_le (shiftOf_mono (Nat.le_of_lt h)) with hlt | heq
  · have hshifted := shifted_lt a
    have hnext : (shiftOf a + 2) * binade ≤ (shiftOf b + 1) * binade :=
      Nat.mul_le_mul_right _ (by omega)
    have hrank : (shiftOf b + 1) * binade ≤ rankOfUnits b 1 := le_rankOfUnits (by omega)
    rw [ha.rankOfUnits_eq]
    rw [Nat.add_mul] at hnext
    omega
  · have hquot : a / twoTo (shiftOf b) < b / twoTo (shiftOf b) :=
      Nat.div_lt_div_of_lt_of_dvd hb h
    rw [ha.rankOfUnits_eq, hb.rankOfUnits_eq, heq]
    omega

theorem isExact_of_le {n : Nat} (h : n ≤ twoTo 53) : IsExact (n * unitsInOne) := by
  unfold IsExact
  rcases Nat.lt_or_eq_of_le h with hlt | rfl
  · have hunits : n * unitsInOne < twoTo (53 + 1074) := by
      unfold unitsInOne
      rw [twoTo_add]
      exact Nat.mul_lt_mul_of_pos_right hlt (twoTo_pos _)
    have hpow : twoTo (shiftOf (n * unitsInOne)) ∣ unitsInOne :=
      twoTo_dvd (shiftOf_le hunits)
    exact Nat.dvd_trans hpow (Nat.dvd_mul_left _ _)
  · decide +kernel

theorem rankOfNat_mono {m n : Nat} (h : m ≤ n) : rankOfNat m ≤ rankOfNat n :=
  rankOfUnits_mono (Nat.mul_le_mul_right _ h)

theorem rankOfNat_lt {m n : Nat} (hn : n ≤ twoTo 53) (h : m < n) : rankOfNat m < rankOfNat n :=
  rankOfUnits_lt (isExact_of_le (by omega)) (isExact_of_le hn)
    (Nat.mul_lt_mul_of_pos_right h (twoTo_pos _))

def magnitude (n : Nat) : Nat := min (rankOfNat n) infinityRank

theorem magnitude_mono {m n : Nat} (h : m ≤ n) : magnitude m ≤ magnitude n := by
  have hrank := rankOfNat_mono h
  unfold magnitude
  omega

theorem magnitude_lt {m n : Nat} (hn : n ≤ twoTo 53) (h : m < n) : magnitude m < magnitude n := by
  have hrank := rankOfNat_lt hn h
  have hlast : rankOfNat (twoTo 53) ≤ infinityRank := by decide +kernel
  have hfinite := Nat.le_trans (rankOfNat_mono hn) hlast
  unfold magnitude
  omega

theorem magnitude_zero : magnitude 0 = 0 := by decide +kernel

def placeOfInt (i : Int) : Int := if i < 0 then -magnitude i.natAbs else magnitude i.natAbs

theorem place?_ofInt (i : Int) : (ofInt i).place? = some (placeOfInt i) := by
  change some (if decide (i < 0) = true then -(magnitude i.natAbs : Int) else magnitude i.natAbs) = _
  rw [placeOfInt]
  simp only [decide_eq_true_eq]

theorem placeOfInt_mono {i j : Int} (h : i ≤ j) : placeOfInt i ≤ placeOfInt j := by
  unfold placeOfInt
  by_cases hi : i < 0
  · by_cases hj : j < 0
    · have habs : magnitude j.natAbs ≤ magnitude i.natAbs := magnitude_mono (by omega)
      rw [if_pos hi, if_pos hj]
      omega
    · rw [if_pos hi, if_neg hj]
      omega
  · have habs : magnitude i.natAbs ≤ magnitude j.natAbs := magnitude_mono (by omega)
    rw [if_neg hi, if_neg (by omega)]
    omega

theorem placeOfInt_lt {i j : Int} (hi : i.natAbs ≤ twoTo 53) (hj : j.natAbs ≤ twoTo 53)
    (h : i < j) : placeOfInt i < placeOfInt j := by
  unfold placeOfInt
  by_cases hneg : i < 0
  · by_cases hneg' : j < 0
    · have habs : magnitude j.natAbs < magnitude i.natAbs := magnitude_lt hi (by omega)
      rw [if_pos hneg, if_pos hneg']
      omega
    · have habs : magnitude 0 < magnitude i.natAbs := magnitude_lt hi (by omega)
      rw [magnitude_zero] at habs
      rw [if_pos hneg, if_neg hneg']
      omega
  · have habs : magnitude i.natAbs < magnitude j.natAbs := magnitude_lt hj (by omega)
    rw [if_neg hneg, if_neg (by omega)]
    omega

end Songbook.Double
