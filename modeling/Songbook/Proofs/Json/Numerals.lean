import Songbook.Json.Numeral
import Songbook.Proofs.Number.Reading

/-!
# Numerals in JSON

Main statement: a numeral is read back from its written form in front of everything that may follow
a value.
-/

namespace Songbook

inductive Json.MayFollow : List Char → Prop
  | nothing : MayFollow []
  | comma (rest : List Char) : MayFollow (',' :: rest)
  | bracket (rest : List Char) : MayFollow (']' :: rest)
  | brace (rest : List Char) : MayFollow ('\x7d' :: rest)

namespace Number

variable {rest : List Char}

theorem eq_nil_of_digitsOf {n : Nat} {digits : List Nat} (h : digitsOf n = 0 :: digits) :
    digits = [] := by
  induction n using digitsOf.induct generalizing digits with
  | case1 n hn =>
    rw [digitsOf, if_pos hn] at h
    exact (List.cons.inj h).2.symm
  | case2 n hn ih =>
    -- the digits without the last one are those of a tenth, which is not zero
    rw [digitsOf, if_neg hn] at h
    have htenth := ofDigits_digitsOf (n / 10)
    cases hinit : digitsOf (n / 10) with
    | nil => exact absurd hinit (digitsOf_ne_nil _)
    | cons first init =>
      rw [hinit, List.cons_append] at h
      obtain ⟨rfl, -⟩ := List.cons.inj h
      rw [hinit, ih hinit] at htenth
      have hzero : 0 = n / 10 := htenth
      omega

/-- A sign and a magnitude put together again. -/
theorem signed_natAbs (i : Int) :
    (if decide (i < 0) then -(i.natAbs : Int) else i.natAbs) = i := by
  by_cases hneg : i < 0
  · rw [decide_eq_true hneg, if_pos rfl]
    omega
  · rw [decide_eq_false hneg, if_neg Bool.false_ne_true]
    omega

theorem exists_head_writeNat (n : Nat) :
    ∃ c cs, writeNat n = c :: cs ∧ c.isDigit = true := by
  obtain ⟨d, digits, hdigits, -⟩ := exists_digits n
  have hd : d < 10 := lt_ten_of_mem_digitsOf (hdigits ▸ List.mem_cons_self)
  refine ⟨digitChar d, digitChars digits, ?_, isDigit_of_digit? (digit?_digitChar hd)⟩
  rw [writeNat, hdigits]
  rfl

end Number

namespace Numeral

open Number

variable {rest : List Char}

theorem readWhole?_writeNat (n : Nat) (hrest : takeDigits rest = ([], rest)) :
    readWhole? (writeNat n ++ rest) = some (n, rest) := by
  obtain ⟨d, digits, hdigits, hvalue⟩ := exists_digits n
  rw [readWhole?, takeDigits_writeNat n hrest, hdigits]
  cases d with
  | zero =>
    obtain rfl := eq_nil_of_digitsOf hdigits
    exact congrArg (fun n => some (n, rest)) hvalue
  | succ d => exact congrArg (fun n => some (n, rest)) hvalue

theorem readFraction?_writeFraction {digits : List Nat} (h : ∀ d ∈ digits, d < 10)
    (hrest : takeDigits rest = ([], rest)) (hpoint : rest.head? ≠ some '.') :
    readFraction? (writeFraction digits ++ rest) = some (digits, rest) := by
  cases digits with
  | nil =>
    rw [writeFraction, List.nil_append, readFraction?]
    rintro cs rfl
    exact hpoint rfl
  | cons d digits =>
    rw [writeFraction, List.cons_append, readFraction?, takeDigits_append h hrest]
    exact List.cons_ne_nil d digits

theorem readPower?_writePower (power : Option Int) (hrest : takeDigits rest = ([], rest))
    (hsmall : rest.head? ≠ some 'e') (hlarge : rest.head? ≠ some 'E') :
    readPower? (writePower power ++ rest) = some (power, rest) := by
  cases power with
  | none =>
    cases rest with
    | nil => rfl
    | cons c cs =>
      have hmark : ¬ (c = 'e' ∨ c = 'E') := by
        rintro (rfl | rfl)
        · exact hsmall rfl
        · exact hlarge rfl
      rw [writePower, List.nil_append, readPower?, if_neg hmark]
  | some p =>
    obtain ⟨d, digits, hdigits, hvalue⟩ := exists_digits p.natAbs
    have hsign : takeSign ((if p < 0 then '-' else '+') :: writeNat p.natAbs ++ rest) =
        (decide (p < 0), writeNat p.natAbs ++ rest) := by
      by_cases hneg : p < 0
      · rw [if_pos hneg, decide_eq_true hneg]
        rfl
      · rw [if_neg hneg, decide_eq_false hneg]
        rfl
    rw [writePower, List.cons_append, readPower?, if_pos (.inl rfl), hsign]
    simp only [takeDigits_writeNat _ hrest, hdigits, hvalue, signed_natAbs]

theorem takeDigits_of_mayFollow (h : Json.MayFollow rest) : takeDigits rest = ([], rest) := by
  cases h <;> rfl

theorem takeDigits_writePower (power : Option Int) (h : Json.MayFollow rest) :
    takeDigits (writePower power ++ rest) = ([], writePower power ++ rest) := by
  cases power with
  | none => exact takeDigits_of_mayFollow h
  | some p => rfl

theorem takeDigits_writeFraction (digits : List Nat) (power : Option Int)
    (h : Json.MayFollow rest) :
    takeDigits (writeFraction digits ++ (writePower power ++ rest)) =
      ([], writeFraction digits ++ (writePower power ++ rest)) := by
  cases digits with
  | nil => exact takeDigits_writePower power h
  | cons d digits => rfl

theorem read?_write {n : Numeral} (hdigits : ∀ d ∈ n.fraction, d < 10)
    (h : Json.MayFollow rest) : read? (n.write ++ rest) = some (n, rest) := by
  have hmark : rest.head? ≠ some 'e' ∧ rest.head? ≠ some 'E' := by cases h <;> simp
  have hpoint : (writePower n.power ++ rest).head? ≠ some '.' := by
    cases n.power <;> cases h <;> simp [writePower]
  have hpower := readPower?_writePower n.power (takeDigits_of_mayFollow h) hmark.1 hmark.2
  have hfraction := readFraction?_writeFraction hdigits (takeDigits_writePower n.power h) hpoint
  have hwhole := readWhole?_writeNat n.whole (takeDigits_writeFraction n.fraction n.power h)
  have hparts : n.write ++ rest = (if n.negative then ['-'] else []) ++
      (writeNat n.whole ++ (writeFraction n.fraction ++ (writePower n.power ++ rest))) := by
    simp only [write, List.append_assoc]
  obtain ⟨negative, whole, fraction, power⟩ := n
  cases negative with
  | true =>
    rw [hparts, if_pos rfl, List.singleton_append, read?]
    simp [hwhole, hfraction, hpower]
  | false =>
    rw [hparts, if_neg Bool.false_ne_true, List.nil_append, read?]
    · simp [hwhole, hfraction, hpower]
    · intro cs heq
      obtain ⟨c, digits, hhead, hdigit⟩ := exists_head_writeNat whole
      rw [hhead, List.cons_append] at heq
      obtain ⟨rfl, -⟩ := List.cons.inj heq
      cases hdigit

theorem exists_head_write (n : Numeral) :
    ∃ c cs, n.write = c :: cs ∧ (c = '-' ∨ c.isDigit = true) := by
  obtain ⟨c, cs, hhead, hdigit⟩ := exists_head_writeNat n.whole
  rw [write]
  by_cases hsign : n.negative = true
  · rw [if_pos hsign]
    exact ⟨'-', _, rfl, .inl rfl⟩
  · rw [if_neg hsign, hhead]
    exact ⟨c, _, rfl, .inr hdigit⟩

end Numeral

end Songbook
