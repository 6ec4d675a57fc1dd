import Songbook.Proofs.Number.Reading
import Songbook.Value.Basic

/-!
# Numbers among values

A number is an integer, of those that 64 bits hold, or a double.
-/

namespace Songbook

namespace Number

def Fits (i : Int) : Prop := Int64.minValue.toInt ≤ i ∧ i ≤ Int64.maxValue.toInt

instance (i : Int) : Decidable (Fits i) := inferInstanceAs (Decidable (_ ∧ _))

variable {i : Int} {n : Int64}

theorem fits_toInt (n : Int64) : Fits n.toInt :=
  ⟨Int64.le_iff_toInt_le.1 (Int64.minValue_le n), Int64.le_iff_toInt_le.1 (Int64.le_maxValue n)⟩

theorem fits_of_natAbs_le (h : i.natAbs ≤ Int64.maxValue.toInt.toNat) : Fits i := by
  have hmax : Int64.maxValue.toInt = 9223372036854775807 := by decide
  have hmin : Int64.minValue.toInt = -9223372036854775808 := by decide
  constructor <;> omega

theorem int64?_eq_none_iff : int64? i = none ↔ ¬ Fits i := by
  simp [int64?, Fits]

theorem int64?_eq_some_iff : int64? i = some n ↔ n.toInt = i := by
  constructor
  · intro h
    rw [int64?, Option.ite_none_right_eq_some] at h
    obtain ⟨⟨hlow, hhigh⟩, hn⟩ := h
    have hn := Option.some.inj hn
    rw [← hn]
    apply Int64.toInt_ofInt_of_le
    · exact hlow
    · exact Int.lt_of_le_of_lt hhigh (by decide)
  · rintro rfl
    exact int64?_toInt n

theorem exists_of_fits (h : Fits i) : ∃ n : Int64, int64? i = some n ∧ n.toInt = i := by
  obtain ⟨n, hn⟩ := Option.ne_none_iff_exists'.1 fun hnone => int64?_eq_none_iff.1 hnone h
  exact ⟨n, hn, int64?_eq_some_iff.1 hn⟩

end Number

namespace Value

variable {value : Value}

/-- A value is an integer, a double or no number. -/
theorem number_cases (value : Value) : (∃ m, value.integer? = some m) ∨
    (∃ d, value = .double d) ∨
    (value.integer? = none ∧ value.number? = none ∧ ∀ d, Value.double d ≠ value) := by
  cases value with
  | int32 m => exact .inl ⟨m.toInt, rfl⟩
  | int64 m => exact .inl ⟨m.toInt, rfl⟩
  | double d => exact .inr (.inl ⟨d, rfl⟩)
  | _ => exact .inr (.inr ⟨rfl, rfl, fun _ h => nomatch h⟩)

theorem integer?_eq_none_of_number? (h : value.number? = none) : value.integer? = none := by
  cases value <;> first | rfl | cases h

end Value

end Songbook
