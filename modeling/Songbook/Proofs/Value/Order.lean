import Songbook.Proofs.Number.Integers
import Songbook.Value.Order

/-!
# The order of sorting

Two integers are compared exactly, other numbers by their places among the doubles, and values of one
bracket that do not compare are level. Main statement: steps up never lead back to where they began,
and where neither rounding nor a missing comparison makes values level the order is total.
-/

namespace Songbook.Value

open Number

def place? (value : Value) : Option Int := value.number?.bind Double.place?

theorem place?_of_integer? {value : Value} {n : Int} (h : value.integer? = some n) :
    value.place? = some (Double.placeOfInt n) := by
  cases value with
  | int32 m | int64 m =>
    obtain rfl := Option.some.inj h
    exact Double.place?_ofInt _
  | _ => cases h

theorem placeOfInt_of_integer? {value : Value} {p : Int} (hplace : value.place? = some p) {n : Int}
    (h : value.integer? = some n) : p = Double.placeOfInt n :=
  Option.some.inj (hplace.symm.trans (place?_of_integer? h))

def numberOrder : Option Int → Option Int → Int → Int → Ordering
  | some m, some n, _, _ => compare m n
  | _, _, p, q => compare p q

theorem numberOrder_swap (i j : Option Int) (p q : Int) :
    numberOrder j i q p = (numberOrder i j p q).swap := by
  cases i <;> cases j <;> exact Std.OrientedOrd.eq_swap

/-- Integers that share a place are told apart, as integers, and other numbers are not. -/
theorem numberOrder_eq_lt_iff {i j : Option Int} {p q : Int}
    (hi : ∀ {m}, i = some m → p = Double.placeOfInt m)
    (hj : ∀ {n}, j = some n → q = Double.placeOfInt n) :
    numberOrder i j p q = .lt ↔ p < q ∨ p = q ∧ ∃ m n, i = some m ∧ j = some n ∧ m < n := by
  cases i with
  | none => simp [numberOrder, Int.compare_eq_lt]
  | some m =>
    cases j with
    | none => simp [numberOrder, Int.compare_eq_lt]
    | some n =>
      obtain rfl := hi rfl
      obtain rfl := hj rfl
      rw [numberOrder, Int.compare_eq_lt]
      constructor
      · intro hlt
        have hplace := Double.placeOfInt_mono (Int.le_of_lt hlt)
        rcases Int.lt_or_eq_of_le hplace with hplace | hplace
        · exact .inl hplace
        · exact .inr ⟨hplace, m, n, rfl, rfl, hlt⟩
      · rintro (hplace | ⟨-, m', n', hm, hn, hlt⟩)
        · apply Int.not_le.1
          intro hle
          exact Int.not_le.2 hplace (Double.placeOfInt_mono hle)
        · obtain rfl := Option.some.inj hm
          obtain rfl := Option.some.inj hn
          exact hlt

inductive Compares (collation : Collation) : Value → Value → Ordering → Prop
  | texts {s t : String} {o : Ordering} (h : compare (collation.key s) (collation.key t) = o) :
      Compares collation (string s) (string t) o
  | truths {a b : Bool} {o : Ordering} (h : compare a b = o) :
      Compares collation (bool a) (bool b) o
  | dates {m n : Int64} {o : Ordering} (h : compare m.toInt n.toInt = o) :
      Compares collation (date m) (date n) o
  | numbers {a b : Value} {p q : Int} {o : Ordering} (ha : a.place? = some p)
      (hb : b.place? = some q) (h : numberOrder a.integer? b.integer? p q = o) :
      Compares collation a b o

variable {collation : Collation} {a b c : Value} {o : Ordering}

theorem compare?_of_compares (h : Compares collation a b o) : a.compare? collation b = some o := by
  cases h with
  | texts h => exact congrArg some h
  | truths h => exact congrArg some h
  | dates h => exact congrArg some h
  | @numbers _ _ p q _ ha hb h =>
    unfold compare?
    split
    · cases ha
    · cases ha
    · cases ha
    · split
      · next m n hm hn =>
        rw [hm, hn] at h
        exact congrArg some h
      · next hmixed =>
        obtain ⟨x, hx, hp⟩ := Option.bind_eq_some_iff.1 ha
        obtain ⟨y, hy, hq⟩ := Option.bind_eq_some_iff.1 hb
        have hplaces : compare p q = o := by
          rwa [numberOrder] at h
          exact hmixed
        simp [hx, hy, Double.compare?, hp, hq, hplaces]

theorem compares_of_compare? (h : a.compare? collation b = some o) : Compares collation a b o := by
  unfold compare? at h
  split at h
  · exact .texts (Option.some.inj h)
  · exact .truths (Option.some.inj h)
  · exact .dates (Option.some.inj h)
  · split at h
    · next m n hm hn =>
      refine .numbers (place?_of_integer? hm) (place?_of_integer? hn) ?_
      rw [hm, hn]
      exact Option.some.inj h
    · next hmixed =>
      obtain ⟨x, hx, h⟩ := Option.bind_eq_some_iff.1 h
      obtain ⟨y, hy, h⟩ := Option.bind_eq_some_iff.1 h
      obtain ⟨p, hp, h⟩ := Option.bind_eq_some_iff.1 h
      obtain ⟨q, hq, h⟩ := Option.bind_eq_some_iff.1 h
      have ha : a.place? = some p := by rw [place?, hx]; exact hp
      have hb : b.place? = some q := by rw [place?, hy]; exact hq
      refine .numbers ha hb ?_
      rw [numberOrder]
      · exact Option.some.inj h
      · exact hmixed

theorem compare?_eq_some_iff : a.compare? collation b = some o ↔ Compares collation a b o :=
  ⟨compares_of_compare?, compare?_of_compares⟩

namespace Compares

theorem swap (h : Compares collation a b o) : Compares collation b a o.swap := by
  cases h with
  | texts h => exact .texts (h ▸ Std.OrientedOrd.eq_swap)
  | truths h => exact .truths (h ▸ Std.OrientedOrd.eq_swap)
  | dates h => exact .dates (h ▸ Std.OrientedOrd.eq_swap)
  | numbers ha hb h => exact .numbers hb ha (h ▸ numberOrder_swap _ _ _ _)

theorem bracket_eq (h : Compares collation a b o) : a.bracket = b.bracket := by
  have hnumber : ∀ {value : Value} {p : Int}, value.place? = some p → value.bracket = 1 := by
    intro value p h
    cases value with
    | int32 | int64 | double => rfl
    | _ => cases h
  cases h with
  | texts | truths | dates => rfl
  | numbers ha hb => rw [hnumber ha, hnumber hb]

/-- Each step between numbers is a step up in place, or one between integers of the same place. -/
theorem lt_trans (hab : Compares collation a b .lt) (hbc : Compares collation b c .lt) :
    Compares collation a c .lt := by
  cases hab with
  | texts hst =>
    cases hbc with
    | texts htu => exact .texts (Std.TransCmp.lt_trans hst htu)
    | numbers hb => cases hb
  | truths hst =>
    cases hbc with
    | truths htu => exact .truths (Std.TransCmp.lt_trans hst htu)
    | numbers hb => cases hb
  | dates hst =>
    cases hbc with
    | dates htu => exact .dates (Std.TransCmp.lt_trans hst htu)
    | numbers hb => cases hb
  | @numbers _ _ p q _ ha hb hlt =>
    cases hbc with
    | texts => cases hb
    | truths => cases hb
    | dates => cases hb
    | @numbers _ _ q' r _ hb' hc hlt' =>
      obtain rfl := Option.some.inj (hb.symm.trans hb')
      rw [numberOrder_eq_lt_iff (placeOfInt_of_integer? ha) (placeOfInt_of_integer? hb)] at hlt
      rw [numberOrder_eq_lt_iff (placeOfInt_of_integer? hb) (placeOfInt_of_integer? hc)] at hlt'
      refine .numbers ha hc ?_
      rw [numberOrder_eq_lt_iff (placeOfInt_of_integer? ha) (placeOfInt_of_integer? hc)]
      rcases hlt with hlt | ⟨rfl, m, n, hm, hn, hmn⟩
      · rcases hlt' with hlt' | ⟨rfl, -⟩
        · exact .inl (Int.lt_trans hlt hlt')
        · exact .inl hlt
      · rcases hlt' with hlt' | ⟨rfl, n', k, hn', hk, hnk⟩
        · exact .inl hlt'
        · obtain rfl := Option.some.inj (hn.symm.trans hn')
          exact .inr ⟨rfl, m, k, hm, hk, Int.lt_trans hmn hnk⟩

end Compares

theorem compare?_swap (collation : Collation) (a b : Value) :
    b.compare? collation a = (a.compare? collation b).map Ordering.swap := by
  cases h : a.compare? collation b with
  | some o => exact compare?_of_compares (compares_of_compare? h).swap
  | none =>
    cases h' : b.compare? collation a with
    | none => rfl
    | some o =>
      have hback := compare?_of_compares (compares_of_compare? h').swap
      rw [h] at hback
      cases hback

theorem sortCompare_of_bracket_eq (h : a.bracket = b.bracket) :
    sortCompare collation a b = (a.compare? collation b).getD .eq := if_pos h

theorem sortCompare_of_bracket_ne (h : a.bracket ≠ b.bracket) :
    sortCompare collation a b = compare a.bracket b.bracket := if_neg h

theorem sortCompare_swap (collation : Collation) (a b : Value) :
    sortCompare collation b a = (sortCompare collation a b).swap := by
  by_cases h : a.bracket = b.bracket
  · rw [sortCompare_of_bracket_eq h, sortCompare_of_bracket_eq h.symm, compare?_swap]
    cases a.compare? collation b <;> rfl
  · rw [sortCompare_of_bracket_ne h, sortCompare_of_bracket_ne (Ne.symm h)]
    exact Std.OrientedOrd.eq_swap

theorem sortCompareFound_swap (collation : Collation) (a b : Option Value) :
    sortCompareFound collation b a = (sortCompareFound collation a b).swap :=
  sortCompare_swap collation (a.getD null) (b.getD null)

theorem sortCompare_self (collation : Collation) (a : Value) : sortCompare collation a a = .eq := by
  have hswap := sortCompare_swap collation a a
  cases h : sortCompare collation a a with
  | eq => rfl
  | _ =>
    rw [h] at hswap
    cases hswap

theorem sortCompare_eq_lt_iff : sortCompare collation a b = .lt ↔
    a.bracket < b.bracket ∨ Compares collation a b .lt := by
  by_cases h : a.bracket = b.bracket
  · rw [sortCompare_of_bracket_eq h, ← compare?_eq_some_iff]
    cases a.compare? collation b with
    | none => simp [h]
    | some o => simp [h]
  · rw [sortCompare_of_bracket_ne h, Nat.compare_eq_lt]
    constructor
    · exact .inl
    · rintro (hlt | hlt)
      · exact hlt
      · exact absurd hlt.bracket_eq h

theorem sortCompare_lt_trans (hab : sortCompare collation a b = .lt)
    (hbc : sortCompare collation b c = .lt) : sortCompare collation a c = .lt := by
  rw [sortCompare_eq_lt_iff] at hab hbc ⊢
  rcases hab with hab | hab
  · rcases hbc with hbc | hbc
    · exact .inl (Nat.lt_trans hab hbc)
    · exact .inl (hbc.bracket_eq ▸ hab)
  · rcases hbc with hbc | hbc
    · exact .inl (hab.bracket_eq ▸ hbc)
    · exact .inr (hab.lt_trans hbc)

/-- No value that fails to compare within its bracket, and no integer that rounding could move. -/
def Settled : Value → Prop
  | double .nan | decimal128 _ | symbol _ | timestamp _ _ => False
  | int64 n => n.toInt.natAbs ≤ twoTo 53
  | _ => True

instance : DecidablePred Settled
  | double .nan | decimal128 _ | symbol _ | timestamp _ _ => isFalse id
  | int64 n => inferInstanceAs (Decidable (n.toInt.natAbs ≤ twoTo 53))
  | null | undefined | minKey | maxKey | bool _ | int32 _ | double (.signed _ _ _) | string _
  | code _ | date _ | objectId _ | binary _ | array _ | document _ => isTrue trivial

def text (collation : Collation) : Value → String
  | string s => collation.key s
  | _ => ""

def amount : Value → Int
  | bool b => b.toInt
  | date t => t.toInt
  | value => value.place?.getD 0

def rankOrder (collation : Collation) : Value → Value → Ordering :=
  compareLex (compareOn bracket) (compareLex (compareOn (text collation)) (compareOn amount))

instance : Std.TransCmp (rankOrder collation) :=
  inferInstanceAs (Std.TransCmp (compareLex _ (compareLex _ _)))

theorem rankOrder_eq (a b : Value) : rankOrder collation a b =
    (compare a.bracket b.bracket).then
      ((compare (a.text collation) (b.text collation)).then (compare a.amount b.amount)) := rfl

theorem Settled.natAbs_le (h : a.Settled) {n : Int} (hn : a.integer? = some n) :
    n.natAbs ≤ twoTo 53 := by
  cases a with
  | int32 m =>
    obtain rfl := Option.some.inj hn
    have hlow := m.le_toInt
    have hhigh := m.toInt_lt
    have hlimit : 2 ^ 31 ≤ twoTo 53 := by decide
    omega
  | int64 m =>
    obtain rfl := Option.some.inj hn
    exact h
  | _ => cases hn

theorem compare_placeOfInt {m n : Int} (hm : m.natAbs ≤ twoTo 53) (hn : n.natAbs ≤ twoTo 53) :
    compare (Double.placeOfInt m) (Double.placeOfInt n) = compare m n := by
  rcases Int.lt_trichotomy m n with hlt | rfl | hgt
  · rw [Int.compare_eq_lt.2 hlt, Int.compare_eq_lt.2 (Double.placeOfInt_lt hm hn hlt)]
  · rw [Int.compare_eq_eq.2 rfl, Int.compare_eq_eq.2 rfl]
  · rw [Int.compare_eq_gt.2 hgt, Int.compare_eq_gt.2 (Double.placeOfInt_lt hn hm hgt)]

theorem numberOrder_of_settled (ha : a.Settled) (hb : b.Settled) {p q : Int}
    (hp : a.place? = some p) (hq : b.place? = some q) :
    numberOrder a.integer? b.integer? p q = compare p q := by
  cases hm : a.integer? with
  | none => rfl
  | some m =>
    cases hn : b.integer? with
    | none => rfl
    | some n =>
      rw [placeOfInt_of_integer? hp hm, placeOfInt_of_integer? hq hn,
        compare_placeOfInt (ha.natAbs_le hm) (hb.natAbs_le hn)]
      rfl

theorem text_amount_of_place? (collation : Collation) {p : Int} (h : a.place? = some p) :
    a.bracket = 1 ∧ a.text collation = "" ∧ a.amount = p := by
  cases a with
  | int32 | int64 | double => exact ⟨rfl, rfl, congrArg (Option.getD · 0) h⟩
  | _ => cases h

theorem rankOrder_of_compares (h : Compares collation a b o) (ha : a.Settled) (hb : b.Settled) :
    rankOrder collation a b = o := by
  have hlast : ∀ o : Ordering, o.then .eq = o := by decide
  cases h with
  | texts h =>
    rw [← h]
    exact hlast _
  | truths h =>
    rw [← h]
    rename_i x y
    cases x <;> cases y <;> rfl
  | dates h => exact h
  | numbers hp hq h =>
    rw [numberOrder_of_settled ha hb hp hq] at h
    obtain ⟨hbracket, htext, hamount⟩ := text_amount_of_place? collation hp
    obtain ⟨hbracket', htext', hamount'⟩ := text_amount_of_place? collation hq
    rw [rankOrder_eq, hbracket, hbracket', htext, htext', hamount, hamount', h]
    rfl

theorem Settled.exists_place (h : a.Settled) (hbracket : a.bracket = 1) :
    ∃ p, a.place? = some p := by
  cases a with
  | int32 | int64 => exact ⟨_, place?_of_integer? rfl⟩
  | double d =>
    cases d with
    | nan => exact h.elim
    | signed => exact ⟨_, rfl⟩
  | decimal128 => exact h.elim
  | _ => cases hbracket

/-- Settled values of one bracket that do not compare have neither text nor amount. -/
theorem level_of_compare?_eq_none (ha : a.Settled) (hb : b.Settled)
    (hbracket : a.bracket = b.bracket) (h : a.compare? collation b = none) :
    a.text collation = "" ∧ a.amount = 0 := by
  have hnumber : a.bracket ≠ 1 := by
    intro hone
    obtain ⟨p, hp⟩ := ha.exists_place hone
    obtain ⟨q, hq⟩ := hb.exists_place (hbracket ▸ hone)
    rw [compare?_of_compares (.numbers hp hq rfl)] at h
    cases h
  cases a with
  | string s =>
    cases b with
    | string t => cases h
    | symbol => exact hb.elim
    | _ => cases hbracket
  | bool x =>
    cases b with
    | bool y => cases h
    | _ => cases hbracket
  | date t =>
    cases b with
    | date u => cases h
    | timestamp => exact hb.elim
    | _ => cases hbracket
  | int32 | int64 | double => exact absurd rfl hnumber
  | _ => exact ⟨rfl, rfl⟩

theorem sortCompare_eq_rankOrder (ha : a.Settled) (hb : b.Settled) :
    sortCompare collation a b = rankOrder collation a b := by
  by_cases hbracket : a.bracket = b.bracket
  · rw [sortCompare_of_bracket_eq hbracket]
    cases h : a.compare? collation b with
    | some o => exact (rankOrder_of_compares (compares_of_compare? h) ha hb).symm
    | none =>
      have hback : b.compare? collation a = none := by rw [compare?_swap, h]; rfl
      obtain ⟨htext, hamount⟩ := level_of_compare?_eq_none ha hb hbracket h
      obtain ⟨htext', hamount'⟩ := level_of_compare?_eq_none hb ha hbracket.symm hback
      rw [rankOrder_eq, hbracket, htext, htext', hamount, hamount', Nat.compare_eq_eq.2 rfl]
      rfl
  · rw [sortCompare_of_bracket_ne hbracket, rankOrder_eq]
    rcases Nat.lt_or_gt_of_ne hbracket with hlt | hgt
    · rw [Nat.compare_eq_lt.2 hlt]
      rfl
    · rw [Nat.compare_eq_gt.2 hgt]
      rfl

/-- Steps up make no cycle, whatever the values are. Settled values that are level stand in the same
relation to all others. -/
theorem sortCompareFound_acyclic (collation : Collation) (a b c : Option Value) :
    let order := sortCompareFound collation
    order a a = .eq ∧ order b a = (order a b).swap ∧
      (order a b = .lt → order b c = .lt → order a c = .lt) ∧
      ¬ Relation.TransGen (fun x y => order x y = .lt) a a ∧
      ((a.getD null).Settled → (b.getD null).Settled → (c.getD null).Settled →
        (order a b = .eq → order b c = .eq → order a c = .eq) ∧
        (order a b = .eq → order b c = .lt → order a c = .lt) ∧
        (order a b = .lt → order b c = .eq → order a c = .lt)) := by
  intro order
  have hself : ∀ x, order x x = .eq := fun x => sortCompare_self collation (x.getD null)
  have htrans : ∀ {x y z}, order x y = .lt → order y z = .lt → order x z = .lt :=
    sortCompare_lt_trans
  refine ⟨hself a, sortCompareFound_swap collation a b, htrans, ?_, ?_⟩
  · intro hcycle
    have hrise : ∀ {y}, Relation.TransGen (fun x y => order x y = .lt) a y → order a y = .lt := by
      intro y h
      induction h with
      | single h => exact h
      | tail _ hstep ih => exact htrans ih hstep
    have hlt := hrise hcycle
    rw [hself a] at hlt
    cases hlt
  · intro ha hb hc
    have hab : order a b = rankOrder collation _ _ := sortCompare_eq_rankOrder ha hb
    have hbc : order b c = rankOrder collation _ _ := sortCompare_eq_rankOrder hb hc
    have hac : order a c = rankOrder collation _ _ := sortCompare_eq_rankOrder ha hc
    rw [hab, hbc, hac]
    exact ⟨Std.TransCmp.eq_trans, Std.TransCmp.lt_of_eq_of_lt, Std.TransCmp.lt_of_lt_of_eq⟩

/-- The largest integers with places of their own, and a text. -/
theorem sortCompareFound_acyclic_limit :
    let whole := int64 9007199254740992
    let rounded := double (Double.ofInt 9007199254740992)
    whole.Settled ∧ rounded.Settled ∧ (string "").Settled ∧
      sortCompareFound .simple (some whole) (some rounded) = .eq ∧
      sortCompareFound .simple (some rounded) (some (string "")) = .lt ∧
      sortCompareFound .simple (some whole) (some (string "")) = .lt := by
  intro whole rounded
  have hwhole : whole.Settled := by decide
  have hrounded : rounded.Settled := trivial
  have htext : (string "").Settled := trivial
  have hlevel : sortCompareFound .simple (some whole) (some rounded) = .eq := by decide +kernel
  have hlt : sortCompareFound .simple (some rounded) (some (string "")) = .lt := rfl
  have horder := sortCompareFound_acyclic .simple (some whole) (some rounded) (some (string ""))
  exact ⟨hwhole, hrounded, htext, hlevel, hlt,
    (horder.2.2.2.2 hwhole hrounded htext).2.1 hlevel hlt⟩

end Songbook.Value
