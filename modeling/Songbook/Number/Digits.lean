/-!
# Decimal digits

Natural numbers and integers as decimal digits, most significant first. Only the ten ASCII digits
count.
-/

namespace Songbook.Number

def digit? (c : Char) : Option Nat :=
  if c.isDigit then some (c.toNat - '0'.toNat) else none

def digitChar (d : Nat) : Char :=
  Char.ofNat ('0'.toNat + d)

def takeDigits : List Char → List Nat × List Char
  | [] => ([], [])
  | c :: rest => match digit? c with
    | some d =>
      let (digits, rest) := takeDigits rest
      (d :: digits, rest)
    | none => ([], c :: rest)

def ofDigits (digits : List Nat) : Nat :=
  digits.foldl (fun n d => 10 * n + d) 0

def digitsOf (n : Nat) : List Nat :=
  if n < 10 then [n] else digitsOf (n / 10) ++ [n % 10]

def digitChars (digits : List Nat) : List Char :=
  digits.map digitChar

def writeFraction : List Nat → List Char
  | [] => []
  | digits => '.' :: digitChars digits

def takeSign : List Char → Bool × List Char
  | '+' :: rest => (false, rest)
  | '-' :: rest => (true, rest)
  | cs => (false, cs)

def readNat? (cs : List Char) : Option Nat :=
  match takeDigits cs with
  | (d :: digits, []) => some (ofDigits (d :: digits))
  | _ => none

def readInt? (cs : List Char) : Option Int :=
  let (negative, rest) := takeSign cs
  (readNat? rest).map fun n => if negative then -n else n

def writeNat (n : Nat) : List Char :=
  digitChars (digitsOf n)

def writeInt (i : Int) : List Char :=
  if i < 0 then '-' :: writeNat i.natAbs else writeNat i.natAbs

def int32? (i : Int) : Option Int32 :=
  if Int32.minValue.toInt ≤ i ∧ i ≤ Int32.maxValue.toInt then some (Int32.ofInt i) else none

def int64? (i : Int) : Option Int64 :=
  if Int64.minValue.toInt ≤ i ∧ i ≤ Int64.maxValue.toInt then some (Int64.ofInt i) else none

theorem digit?_digitChar {d : Nat} (h : d < 10) : digit? (digitChar d) = some d := by
  have all : ∀ d, d < 10 → digit? (digitChar d) = some d := by decide
  exact all d h

theorem ofDigits_append_singleton (digits : List Nat) (d : Nat) :
    ofDigits (digits ++ [d]) = 10 * ofDigits digits + d := by
  simp [ofDigits]

theorem ofDigits_digitsOf (n : Nat) : ofDigits (digitsOf n) = n := by
  induction n using digitsOf.induct with
  | case1 n h => rw [digitsOf]; simp [h, ofDigits]
  | case2 n h ih => rw [digitsOf]; simp only [h, ↓reduceIte, ofDigits_append_singleton, ih]; omega

theorem lt_ten_of_mem_digitsOf {n d : Nat} (h : d ∈ digitsOf n) : d < 10 := by
  induction n using digitsOf.induct with
  | case1 n hn => rw [digitsOf] at h; simp_all
  | case2 n hn ih =>
    rw [digitsOf] at h
    simp only [hn, ↓reduceIte, List.mem_append, List.mem_singleton] at h
    rcases h with h | rfl
    · exact ih h
    · omega

theorem digitsOf_ne_nil (n : Nat) : digitsOf n ≠ [] := by
  rw [digitsOf]; split <;> simp

end Songbook.Number
