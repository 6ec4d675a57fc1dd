import Songbook.Proofs.Value.Numbers
import Songbook.Store.Stage

/-!
# Differences

When a difference is an integer, when it is null, and when it fails.
-/

namespace Songbook

namespace Value

variable {a b : Value} {m n : Int} {e : StoreError}

theorem isNull_iff : a.isNull = true ↔ a = null := by
  cases a <;> simp [isNull]

theorem isNull_or_eq_false (ha : a ≠ null) (hb : b ≠ null) : (a.isNull || b.isNull) = false := by
  rw [Bool.or_eq_false_iff, ← Bool.not_eq_true, ← Bool.not_eq_true, isNull_iff, isNull_iff]
  exact ⟨ha, hb⟩

theorem minus_of_null (h : a = null ∨ b = null) : a.minus b = .ok null := by
  have hnull : (a.isNull || b.isNull) = true := by
    rw [Bool.or_eq_true, isNull_iff, isNull_iff]
    exact h
  exact if_pos hnull

theorem minus_integers (ha : a.integer? = some m) (hb : b.integer? = some n)
    (hfits : Number.Fits (m - n)) : ∃ k : Int64, a.minus b = .ok (int64 k) ∧ k.toInt = m - n := by
  obtain ⟨k, hk, hto⟩ := Number.exists_of_fits hfits
  have hnull : (a.isNull || b.isNull) = false := by
    apply isNull_or_eq_false
    · rintro rfl
      cases ha
    · rintro rfl
      cases hb
  have hdifference : minus.integerDifference? a b = some k := by
    simp [minus.integerDifference?, ha, hb, hk]
  refine ⟨k, ?_, hto⟩
  rw [minus, hnull, hdifference]
  rfl

structure Unsubtractable (a b : Value) : Prop where
  minuend : a ≠ null
  subtrahend : b ≠ null
  noNumber : a.number? = none ∨ b.number? = none

theorem minus_of_unsubtractable (h : Unsubtractable a b) :
    a.minus b = .error (.invalidQuery s!"cannot subtract {b.kindName} from {a.kindName}") := by
  have hdifference : minus.integerDifference? a b = none := by
    rcases h.noNumber with ha | hb
    · simp [minus.integerDifference?, integer?_eq_none_of_number? ha]
    · simp [minus.integerDifference?, integer?_eq_none_of_number? hb]
  rw [minus, isNull_or_eq_false h.minuend h.subtrahend, hdifference]
  rcases h.noNumber with ha | hb
  · simp [ha]
  · simp [hb]

theorem exists_minus (h : ¬ Unsubtractable a b) : ∃ value, a.minus b = .ok value := by
  by_cases ha : a = null
  · exact ⟨null, minus_of_null (.inl ha)⟩
  by_cases hb : b = null
  · exact ⟨null, minus_of_null (.inr hb)⟩
  rw [minus, isNull_or_eq_false ha hb, if_neg Bool.false_ne_true]
  cases minus.integerDifference? a b with
  | some n => exact ⟨_, rfl⟩
  | none =>
    cases hx : a.number? with
    | none => exact absurd ⟨ha, hb, .inl hx⟩ h
    | some x =>
      cases hy : b.number? with
      | none => exact absurd ⟨ha, hb, .inr hy⟩ h
      | some y => exact ⟨_, rfl⟩

end Value

theorem Formula.eval_difference (minuend subtrahend : String) (doc : Document) :
    (minus (field minuend) (field subtrahend)).eval doc =
      ((doc.find? minuend).getD .null).minus ((doc.find? subtrahend).getD .null) := rfl

theorem Document.addFields_singleton (name : String) (formula : Formula) (doc : Document) :
    doc.addFields [(name, formula)] = (formula.eval doc).map (doc.insert name) := by
  rw [addFields, List.foldlM_cons]
  cases formula.eval doc <;> rfl

end Songbook
