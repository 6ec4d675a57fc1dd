import Songbook.Number.Digits

/-!
# Reading integers

An integer is read back from the text that is written for it, and a text that can be read holds
nothing but signs and digits.
-/

namespace Songbook.Number

/-- The text denotes the integer of 64 bits. Signs and leading zeros are free. -/
def Spells (text : String) (n : Int64) : Prop := readInt? text.toList = some n.toInt

def decimal (n : Int64) : String := String.ofList (writeInt n.toInt)

/-- Digits are taken as far as they go. -/
theorem takeDigits_append {digits : List Nat} {rest : List Char} (h : ∀ d ∈ digits, d < 10)
    (hrest : takeDigits rest = ([], rest)) :
    takeDigits (digitChars digits ++ rest) = (digits, rest) := by
  induction digits with
  | nil => exact hrest
  | cons d digits ih =>
    have ih := ih fun e he => h e (List.mem_cons_of_mem _ he)
    simp only [digitChars] at ih
    simp only [digitChars, List.map_cons, List.cons_append, takeDigits,
      digit?_digitChar (h d List.mem_cons_self), ih]

theorem takeDigits_writeNat (n : Nat) {rest : List Char} (hrest : takeDigits rest = ([], rest)) :
    takeDigits (writeNat n ++ rest) = (digitsOf n, rest) :=
  takeDigits_append (fun _ hd => lt_ten_of_mem_digitsOf hd) hrest

theorem exists_digits (n : Nat) :
    ∃ d digits, digitsOf n = d :: digits ∧ ofDigits (d :: digits) = n := by
  obtain ⟨d, digits, hdigits⟩ := List.exists_cons_of_ne_nil (digitsOf_ne_nil n)
  exact ⟨d, digits, hdigits, hdigits ▸ ofDigits_digitsOf n⟩

theorem readNat?_writeNat (n : Nat) : readNat? (writeNat n) = some n := by
  obtain ⟨d, digits, hdigits, hvalue⟩ := exists_digits n
  have htake := takeDigits_writeNat n (takeDigits.eq_1)
  rw [List.append_nil] at htake
  rw [readNat?, htake, hdigits]
  exact congrArg some hvalue

theorem isDigit_of_digit? {c : Char} {d : Nat} (h : digit? c = some d) : c.isDigit = true := by
  rw [digit?] at h
  split at h
  · assumption
  · cases h

theorem isDigit_of_takeDigits {cs : List Char} (h : (takeDigits cs).2 = []) :
    ∀ c ∈ cs, c.isDigit = true := by
  induction cs with
  | nil => intro c hc; simp at hc
  | cons c rest ih =>
    rw [takeDigits] at h
    split at h
    · next d hd =>
      intro e he
      rcases List.mem_cons.1 he with rfl | he
      · exact isDigit_of_digit? hd
      · exact ih h e he
    · simp at h

theorem isDigit_of_readNat? {cs : List Char} {n : Nat} (h : readNat? cs = some n) :
    cs ≠ [] ∧ ∀ c ∈ cs, c.isDigit = true := by
  rw [readNat?] at h
  split at h
  · next d digits htake =>
    refine ⟨?_, isDigit_of_takeDigits (by rw [htake])⟩
    rintro rfl
    simp [takeDigits] at htake
  · cases h

theorem takeSign_of_isDigit {cs : List Char} (h : ∀ c ∈ cs, c.isDigit = true) :
    takeSign cs = (false, cs) := by
  unfold takeSign
  split
  · exact absurd (h '+' List.mem_cons_self) (by decide)
  · exact absurd (h '-' List.mem_cons_self) (by decide)
  · rfl

theorem readInt?_eq (cs : List Char) : readInt? cs =
    (readNat? (takeSign cs).2).map fun n : Nat => if (takeSign cs).1 then -(n : Int) else n := by
  rcases hsign : takeSign cs with ⟨negative, rest⟩
  rw [readInt?, hsign]
  cases hn : readNat? rest <;> simp only [hn] <;> rfl

theorem readInt?_writeInt (i : Int) : readInt? (writeInt i) = some i := by
  have hread := readNat?_writeNat i.natAbs
  rw [writeInt]
  split
  · next hneg =>
    have hsign : takeSign ('-' :: writeNat i.natAbs) = (true, writeNat i.natAbs) := rfl
    rw [readInt?_eq, hsign, hread, Option.map_some, if_pos rfl]
    exact congrArg some (by omega)
  · next hpos =>
    rw [readInt?_eq, takeSign_of_isDigit (isDigit_of_readNat? hread).2, hread, Option.map_some,
      if_neg Bool.false_ne_true]
    exact congrArg some (by omega)

theorem spells_decimal (n : Int64) : Spells (decimal n) n := by
  rw [Spells, decimal, String.toList_ofList]
  exact readInt?_writeInt n.toInt

/-- Signs and digits lie between the comma and the colon of the ASCII table. -/
theorem code_of_readInt? {cs : List Char} {i : Int} (h : readInt? cs = some i) :
    cs ≠ [] ∧ ∀ c ∈ cs, c ≠ ',' ∧ '*'.toNat < c.toNat ∧ c.toNat < ':'.toNat := by
  have hdigit : ∀ c : Char, c.isDigit = true →
      c ≠ ',' ∧ '*'.toNat < c.toNat ∧ c.toNat < ':'.toNat := by
    intro c hc
    have hbounds : 48 ≤ c.toNat ∧ c.toNat ≤ 57 := by
      simp only [Char.isDigit, Bool.and_eq_true, decide_eq_true_eq] at hc
      exact hc
    refine ⟨?_, ?_, ?_⟩
    · rintro rfl
      exact absurd hbounds.1 (by decide)
    · exact Nat.lt_of_lt_of_le (by decide) hbounds.1
    · exact Nat.lt_of_le_of_lt hbounds.2 (by decide)
  rw [readInt?_eq] at h
  obtain ⟨n, hn, -⟩ := Option.map_eq_some_iff.1 h
  obtain ⟨hne, hdigits⟩ := isDigit_of_readNat? hn
  revert hne hdigits
  unfold takeSign
  split
  · intro _ hdigits
    refine ⟨List.cons_ne_nil _ _, fun c hc => ?_⟩
    rcases List.mem_cons.1 hc with rfl | hc
    · decide
    · exact hdigit c (hdigits c hc)
  · intro _ hdigits
    refine ⟨List.cons_ne_nil _ _, fun c hc => ?_⟩
    rcases List.mem_cons.1 hc with rfl | hc
    · decide
    · exact hdigit c (hdigits c hc)
  · exact fun hne hdigits => ⟨hne, fun c hc => hdigit c (hdigits c hc)⟩

theorem int64?_toInt (n : Int64) : int64? n.toInt = some n := by
  have hlow : Int64.minValue.toInt ≤ n.toInt := Int64.le_iff_toInt_le.1 (Int64.minValue_le n)
  have hhigh : n.toInt ≤ Int64.maxValue.toInt := Int64.le_iff_toInt_le.1 (Int64.le_maxValue n)
  rw [int64?, if_pos ⟨hlow, hhigh⟩, Int64.ofInt_toInt]

theorem toNat_digitChar {d : Nat} (h : d < 10) : (digitChar d).toNat = '0'.toNat + d := by
  have hall : ∀ d, d < 10 → (digitChar d).toNat = '0'.toNat + d := by decide
  exact hall d h

theorem digit?_eq_some_iff {c : Char} {d : Nat} :
    digit? c = some d ↔ d < 10 ∧ c = digitChar d := by
  constructor
  · intro h
    have hdigit := isDigit_of_digit? h
    have hbounds : '0'.toNat ≤ c.toNat ∧ c.toNat ≤ '0'.toNat + 9 := by
      simp only [Char.isDigit, Bool.and_eq_true, decide_eq_true_eq] at hdigit
      exact hdigit
    rw [digit?, if_pos hdigit, Option.some_inj] at h
    refine ⟨by omega, ?_⟩
    rw [← h, digitChar, Nat.add_sub_cancel' hbounds.1, Char.ofNat_toNat]
  · rintro ⟨hd, rfl⟩
    exact digit?_digitChar hd

/-- A text is the digits that are taken from it and what follows them. -/
theorem eq_append_of_takeDigits {cs rest : List Char} {digits : List Nat}
    (h : takeDigits cs = (digits, rest)) :
    (∀ d ∈ digits, d < 10) ∧ cs = digitChars digits ++ rest := by
  induction cs generalizing digits with
  | nil =>
    cases h
    exact ⟨fun d hd => (List.not_mem_nil hd).elim, rfl⟩
  | cons c cs ih =>
    rw [takeDigits] at h
    split at h
    · next d hd =>
      obtain ⟨hten, rfl⟩ := digit?_eq_some_iff.1 hd
      cases h
      obtain ⟨hdigits, hcs⟩ := ih rfl
      refine ⟨List.forall_mem_cons.2 ⟨hten, hdigits⟩, ?_⟩
      exact congrArg (digitChar d :: ·) hcs
    · cases h
      exact ⟨fun d hd => (List.not_mem_nil hd).elim, rfl⟩

end Songbook.Number
