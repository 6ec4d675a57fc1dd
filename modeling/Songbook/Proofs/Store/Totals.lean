import Mathlib.Algebra.Order.BigOperators.Ring.Finset
import Songbook.Proofs.Value.Numbers
import Songbook.Proofs.Value.Paths
import Songbook.Store.Grouping

/-!
# Exact totals

A running total stays an integer as long as no double is added and 64 bits hold it. They do hold it,
in whatever order integers come, if they hold the sum of the absolute values.
-/

namespace Songbook

/-- The integer under a path, and zero where there is nothing. -/
def Document.amount (path : String) (doc : Document) : Int :=
  ((doc.find? path).bind Value.integer?).getD 0

/-- A count that 64 bits hold is the amount that it was made from. -/
theorem Document.amount_of_count {path : String} (hpoint : '.' ∉ path.toList) {doc : Document}
    {n : Nat} (h : doc.get? path = some (.int64 (Int64.ofNat n)))
    (hfits : n ≤ Int64.maxValue.toInt.toNat) : doc.amount path = (n : Int) := by
  have hmax : Int64.maxValue.toInt.toNat = 2 ^ 63 - 1 := by decide
  have hto : (Int64.ofNat n).toInt = (n : Int) := Int64.toInt_ofNat_of_lt (by omega)
  rw [← find?_of_not_mem hpoint] at h
  simp [amount, h, Value.integer?, hto]

def Document.HoldsInteger (path : String) (doc : Document) : Prop :=
  (doc.find? path).all (·.integer?.isSome) = true

instance (path : String) (doc : Document) : Decidable (doc.HoldsInteger path) :=
  inferInstanceAs (Decidable (_ = true))

def weight (path : String) (docs : List Document) : Nat :=
  (docs.map fun doc => (doc.amount path).natAbs).sum

theorem weight_cons (path : String) (doc : Document) (docs : List Document) :
    weight path (doc :: docs) = (doc.amount path).natAbs + weight path docs := by
  simp [weight]

theorem weight_le_of_sublist {path : String} {part whole : List Document}
    (h : part.Sublist whole) :
    weight path part ≤ weight path whole := by
  unfold weight
  exact (h.map _).sum_le_sum fun _ _ => Nat.zero_le _

namespace Total

variable {n k : Int64} {m : Int} {value : Value} {values : List Value}

def integers (values : List Value) : List Int := values.filterMap Value.integer?

/-- No value is a double, and 64 bits hold every running total. -/
structure StaysExact (values : List Value) : Prop where
  noDouble : ∀ d, Value.double d ∉ values
  fits : ∀ count, Number.Fits ((integers values).take count).sum

section Steps

theorem add_of_fits (hm : value.integer? = some m) (hfits : Number.Fits (n.toInt + m)) :
    ∃ k : Int64, (exact n).add value = exact k ∧ k.toInt = n.toInt + m := by
  obtain ⟨k, hk, hto⟩ := Number.exists_of_fits hfits
  exact ⟨k, by simp [add, hm, hk], hto⟩

theorem add_of_not_fits (hm : value.integer? = some m) (hfits : ¬ Number.Fits (n.toInt + m)) :
    ∃ d, (exact n).add value = rounded d := by
  have hnone := Number.int64?_eq_none_iff.2 hfits
  exact ⟨_, by simp only [add, hm, hnone]; rfl⟩

theorem add_double (total : Total) (d : Double) : ∃ e, total.add (.double d) = rounded e := by
  cases total <;> exact ⟨_, rfl⟩

/-- What is no number adds nothing. -/
theorem add_of_number?_eq_none (h : value.number? = none) (total : Total) :
    total.add value = total := by
  have hinteger := Value.integer?_eq_none_of_number? h
  cases total <;> simp [add, h, hinteger]

theorem add_rounded (d : Double) (value : Value) : ∃ e, (rounded d).add value = rounded e := by
  cases hnumber : value.number? with
  | none => exact ⟨d, add_of_number?_eq_none hnumber _⟩
  | some e => exact ⟨d.add e, by simp [add, hnumber]⟩

end Steps

theorem of_append (values later : List Value) :
    of (values ++ later) = later.foldl add (of values) :=
  List.foldl_append

/-- A total that has become a double stays one. -/
theorem foldl_rounded (d : Double) (values : List Value) :
    ∃ e, values.foldl add (rounded d) = rounded e := by
  induction values generalizing d with
  | nil => exact ⟨d, rfl⟩
  | cons value values ih =>
    obtain ⟨e, he⟩ := add_rounded d value
    rw [List.foldl_cons, he]
    exact ih e

theorem forall_fits_cons_iff {rest : List Int} :
    (∀ count, Number.Fits (n.toInt + ((m :: rest).take count).sum)) ↔
      ∀ count, Number.Fits (n.toInt + m + (rest.take count).sum) := by
  constructor
  · intro h count
    simpa [Int.add_assoc] using h (count + 1)
  · intro h count
    cases count with
    | zero => simpa using Number.fits_toInt n
    | succ count => simpa [Int.add_assoc] using h count

theorem foldl_eq_exact_iff : values.foldl add (exact n) = exact k ↔
    (∀ d, Value.double d ∉ values) ∧
      (∀ count, Number.Fits (n.toInt + ((integers values).take count).sum)) ∧
        k.toInt = n.toInt + (integers values).sum := by
  induction values generalizing n with
  | nil => simp [integers, Number.fits_toInt, Int64.toInt_inj, eq_comm]
  | cons value values ih =>
    rw [List.foldl_cons]
    rcases value.number_cases with ⟨m, hm⟩ | ⟨d, rfl⟩ | ⟨hinteger, hnumber, hdouble⟩
    · have hcons : integers (value :: values) = m :: integers values :=
        List.filterMap_cons_some hm
      have hdouble : ∀ d, Value.double d ≠ value := by
        rintro d rfl
        cases hm
      by_cases hfits : Number.Fits (n.toInt + m)
      · obtain ⟨next, hnext, hto⟩ := add_of_fits hm hfits
        rw [hnext, ih, hto, hcons, forall_fits_cons_iff, List.sum_cons, Int.add_assoc]
        simp [hdouble]
      · obtain ⟨d, hd⟩ := add_of_not_fits hm hfits
        obtain ⟨e, he⟩ := foldl_rounded d values
        rw [hd, he]
        refine ⟨fun h => (nomatch h), fun h => absurd (h.2.1 1) ?_⟩
        simpa [hcons] using hfits
    · obtain ⟨d', hd⟩ := add_double (exact n) d
      obtain ⟨e, he⟩ := foldl_rounded d' values
      rw [hd, he]
      exact ⟨fun h => (nomatch h), fun h => absurd List.mem_cons_self (h.1 d)⟩
    · have hcons : integers (value :: values) = integers values :=
        List.filterMap_cons_none hinteger
      rw [add_of_number?_eq_none hnumber, ih, hcons]
      simp [hdouble]

theorem of_eq_exact_iff :
    of values = exact k ↔ StaysExact values ∧ k.toInt = (integers values).sum := by
  have hzero : (0 : Int64).toInt = 0 := by decide
  rw [of, foldl_eq_exact_iff, hzero]
  simp only [Int.zero_add]
  exact ⟨fun ⟨hdouble, hfits, hsum⟩ => ⟨⟨hdouble, hfits⟩, hsum⟩,
    fun ⟨⟨hdouble, hfits⟩, hsum⟩ => ⟨hdouble, hfits, hsum⟩⟩

theorem exists_exact_iff : (∃ k, of values = exact k) ↔ StaysExact values := by
  constructor
  · rintro ⟨k, hk⟩
    exact (of_eq_exact_iff.1 hk).1
  · intro h
    have hwhole := h.fits (integers values).length
    rw [List.take_length] at hwhole
    obtain ⟨k, -, hk⟩ := Number.exists_of_fits hwhole
    exact ⟨k, of_eq_exact_iff.2 ⟨h, hk⟩⟩

/-- In whatever order integers come, no running total exceeds the sum of their absolute values. -/
theorem staysExact_of_sum_natAbs (hdouble : ∀ d, Value.double d ∉ values)
    (hfits : ((integers values).map Int.natAbs).sum ≤ Int64.maxValue.toInt.toNat) :
    StaysExact values := by
  refine ⟨hdouble, fun count => Number.fits_of_natAbs_le ?_⟩
  have hpart : ((integers values).take count).Sublist (integers values) :=
    List.take_sublist count _
  calc ((integers values).take count).sum.natAbs
    _ ≤ (((integers values).take count).map Int.natAbs).sum :=
        List.le_sum_of_subadditive Int.natAbs (Nat.le_of_eq Int.natAbs_zero) Int.natAbs_add_le _
    _ ≤ ((integers values).map Int.natAbs).sum :=
        (hpart.map _).sum_le_sum fun _ _ => Nat.zero_le _
    _ ≤ Int64.maxValue.toInt.toNat := hfits

end Total

namespace Tally

def summands (path : String) (docs : List Document) : List Value :=
  docs.filterMap (·.find? path)

/-- A sum over amounts is one over the integers among what is found. -/
theorem sum_map_amount {M : Type} [AddCommMonoid M] {f : Int → M} (hzero : f 0 = 0)
    (path : String) (docs : List Document) :
    (docs.map fun doc => f (doc.amount path)).sum =
      ((Total.integers (summands path docs)).map f).sum := by
  have hintegers : Total.integers (summands path docs) =
      docs.filterMap fun doc => (doc.find? path).bind Value.integer? :=
    List.filterMap_filterMap
  rw [hintegers]
  clear hintegers
  induction docs with
  | nil => rfl
  | cons doc docs ih =>
    rw [List.map_cons, List.sum_cons, ih]
    cases hfound : (doc.find? path).bind Value.integer? with
    | none =>
      simp only [List.filterMap_cons, Document.amount, hfound, Option.getD_none, hzero, zero_add]
    | some m =>
      simp only [List.filterMap_cons, Document.amount, hfound, Option.getD_some, List.map_cons,
        List.sum_cons]

variable {path : String} {docs : List Document}

theorem noDouble_of_holdsInteger (hints : ∀ doc ∈ docs, doc.HoldsInteger path) (d : Double) :
    Value.double d ∉ summands path docs := by
  intro hmem
  obtain ⟨doc, hdoc, hfound⟩ := List.mem_filterMap.1 hmem
  have hint := hints doc hdoc
  rw [Document.HoldsInteger, hfound] at hint
  cases hint

theorem of_sum (path : String) (docs : List Document) :
    (sum path).of docs = (Total.of (summands path docs)).toValue := rfl

theorem of_eq_int64_iff {n : Int64} :
    (sum path).of docs = .int64 n ↔ Total.of (summands path docs) = .exact n := by
  rw [of_sum]
  cases Total.of (summands path docs) <;> simp [Total.toValue]

theorem of_eq_double_iff {d : Double} :
    (sum path).of docs = .double d ↔ Total.of (summands path docs) = .rounded d := by
  rw [of_sum]
  cases Total.of (summands path docs) <;> simp [Total.toValue]

theorem sum_exact (hints : ∀ doc ∈ docs, doc.HoldsInteger path)
    (hfits : weight path docs ≤ Int64.maxValue.toInt.toNat) :
    ∃ n : Int64, (Tally.sum path).of docs = .int64 n ∧
      n.toInt = (docs.map (·.amount path)).sum := by
  have hsum := sum_map_amount (f := id) rfl path docs
  rw [weight, sum_map_amount Int.natAbs_zero] at hfits
  obtain ⟨n, hn⟩ := Total.exists_exact_iff.2
    (Total.staysExact_of_sum_natAbs (noDouble_of_holdsInteger hints) hfits)
  refine ⟨n, of_eq_int64_iff.2 hn, ?_⟩
  rw [(Total.of_eq_exact_iff.1 hn).2]
  simpa using hsum.symm

end Tally

end Songbook
