import Songbook.Proofs.Store.Partition
import Songbook.Proofs.Store.Totals

/-!
# Sums of groups

Main statement: the sum of a group is an integer exactly if no summand is a double and 64 bits hold
every running total, and then it is the exact total.
-/

namespace Songbook.Grouping

variable {path : String} {docs : List Document}

theorem exists_sum_int64_iff : (∃ n, (Tally.sum path).of docs = .int64 n) ↔
    Total.StaysExact (Tally.summands path docs) := by
  simp only [Tally.of_eq_int64_iff, Total.exists_exact_iff]

theorem sum_toInt {n : Int64} (h : (Tally.sum path).of docs = .int64 n) :
    n.toInt = (Total.integers (Tally.summands path docs)).sum :=
  (Total.of_eq_exact_iff.1 (Tally.of_eq_int64_iff.1 h)).2

theorem sum_int64_or_double (path : String) (docs : List Document) :
    (∃ n, (Tally.sum path).of docs = .int64 n) ∨ ∃ d, (Tally.sum path).of docs = .double d := by
  simp only [Tally.of_eq_int64_iff, Tally.of_eq_double_iff]
  cases Total.of (Tally.summands path docs) with
  | exact n => exact .inl ⟨n, rfl⟩
  | rounded d => exact .inr ⟨d, rfl⟩

theorem sum_append_of_double {d : Double} (h : (Tally.sum path).of docs = .double d)
    (later : List Document) : ∃ e, (Tally.sum path).of (docs ++ later) = .double e := by
  have happend : Tally.summands path (docs ++ later) =
      Tally.summands path docs ++ Tally.summands path later := List.filterMap_append
  simp only [Tally.of_eq_double_iff, happend, Total.of_append, Tally.of_eq_double_iff.1 h]
  exact Total.foldl_rounded d _

theorem sum_of_perm {shuffled : List Document} (hperm : shuffled.Perm docs)
    (hdouble : ∀ d, Value.double d ∉ Tally.summands path docs)
    (hfits : weight path docs ≤ Int64.maxValue.toInt.toNat) :
    ∃ n, (Tally.sum path).of shuffled = .int64 n ∧
      n.toInt = (Total.integers (Tally.summands path docs)).sum := by
  have hsummands : (Tally.summands path shuffled).Perm (Tally.summands path docs) :=
    hperm.filterMap _
  have hintegers : (Total.integers (Tally.summands path shuffled)).Perm
      (Total.integers (Tally.summands path docs)) := hsummands.filterMap _
  rw [weight, Tally.sum_map_amount Int.natAbs_zero, ← (hintegers.map _).sum_eq] at hfits
  obtain ⟨n, hn⟩ := exists_sum_int64_iff.2 (Total.staysExact_of_sum_natAbs
    (fun d h => hdouble d (hsummands.mem_iff.1 h)) hfits)
  exact ⟨n, hn, (sum_toInt hn).trans hintegers.sum_eq⟩

/-- A sum over documents is an integer exactly if no double is found under the path and 64 bits hold
every running total of the integers found there, and then it is their total. In every other case it
is a double, and further documents do not turn it back. Integers whose absolute values add up to an
integer of 64 bits have an exact sum in any order. The row of a group shows its sum, unless a later
tally has the same name. -/
theorem sums_stay_exact (path : String) (docs : List Document) :
    ((∃ n, (Tally.sum path).of docs = .int64 n) ↔
      Total.StaysExact (Tally.summands path docs)) ∧
    (∀ n, (Tally.sum path).of docs = .int64 n →
      n.toInt = (Total.integers (Tally.summands path docs)).sum) ∧
    ((¬ ∃ n, (Tally.sum path).of docs = .int64 n) →
      ∃ d, (Tally.sum path).of docs = .double d) ∧
    (∀ d later, (Tally.sum path).of docs = .double d →
      ∃ e, (Tally.sum path).of (docs ++ later) = .double e) ∧
    ((∀ d, Value.double d ∉ Tally.summands path docs) →
      weight path docs ≤ Int64.maxValue.toInt.toNat → ∀ shuffled, shuffled.Perm docs →
        ∃ n, (Tally.sum path).of shuffled = .int64 n ∧
          n.toInt = (Total.integers (Tally.summands path docs)).sum) ∧
    ∀ collation grouping stored name earlier later,
      grouping.tallies = earlier ++ (name, Tally.sum path) :: later →
      name ∉ later.map Prod.fst →
        ∃ rows, Stage.run collation stored (.group grouping) = .ok rows ∧
          rows.map (·.get? name) = (groups collation grouping.key stored).map fun group =>
            some ((Tally.sum path).of group.docs) := by
  refine ⟨exists_sum_int64_iff, fun n => sum_toInt, (sum_int64_or_double path docs).resolve_left,
    fun d later h => sum_append_of_double h later,
    fun hdouble hfits shuffled hperm => sum_of_perm hperm hdouble hfits, ?_⟩
  intro collation grouping stored name earlier later htallies hlater
  refine ⟨grouping.run collation stored, rfl, ?_⟩
  rw [run, List.map_map]
  exact List.map_congr_left fun group _ => get?_row_of_last htallies hlater group

def playsAtLimit : List Document := [
  [("plays", .int64 Int64.maxValue)], [("plays", .string "many")], [("plays", .int32 1)],
  [("song", .string "Red")], [("plays", .int32 (-1))]]

theorem sums_stay_exact_at_limit :
    (∃ d, (Tally.sum "plays").of playsAtLimit = .double d) ∧
      (Tally.sum "plays").of playsAtLimit.reverse = .int64 Int64.maxValue := by
  obtain ⟨hexact, -, hdouble, -⟩ := sums_stay_exact "plays" playsAtLimit
  constructor
  · apply hdouble
    rw [hexact]
    intro h
    exact absurd (h.fits 2) (by decide)
  · rfl

end Songbook.Grouping
