import Songbook.Proofs.Number.Rounding
import Songbook.Proofs.Request.Parts
import Songbook.Proofs.Text.Lowering

/-!
# Counts that are written as numbers

A count passes through the nearest double, and is then cut off at 64 bits. Main statement: the count
that is read is the number that was written, or a number beyond 64 bits is refused, exactly if the
number has no more bits than a double, is the greatest of 64 bits, or is so large that its nearest
double is beyond the first number that 64 bits do not hold.
-/

namespace Songbook

open Number

/-- A natural number as decimal digits, after a plus sign or none, and with blanks around. The first
digits may be zeros. -/
def WritesCount (text : String) (n : Nat) : Prop :=
  ∃ sign digits, (sign = [] ∨ sign = ['+']) ∧ digits ≠ [] ∧ (∀ d ∈ digits, d < 10) ∧
    ofDigits digits = n ∧ Text.trimChars text.toList = sign ++ digitChars digits

/-- Nothing of it changes in small letters. -/
theorem WritesCount.lower {text : String} {n : Nat} (h : WritesCount text n) :
    WritesCount (Text.lower text) n := by
  obtain ⟨sign, digits, hsign, hne, hdigits, hvalue, htrim⟩ := h
  refine ⟨sign, digits, hsign, hne, hdigits, hvalue, ?_⟩
  have hsmall : ∀ c ∈ sign ++ digitChars digits, Text.IsSmall c := by
    intro c hc
    apply Text.isSmall_of_lt_capitals
    rcases List.mem_append.1 hc with hc | hc
    · rcases hsign with rfl | rfl
      · cases hc
      · rw [List.mem_singleton.1 hc]
        decide
    · have hdigit := isDigit_of_mem_digitChars hdigits c hc
      rw [Char.isDigit, Bool.and_eq_true, decide_eq_true_eq, decide_eq_true_eq] at hdigit
      exact Nat.lt_of_le_of_lt (UInt32.le_iff_toNat_le.1 hdigit.2) (by decide)
  have hkept : Text.lower (Text.trim text) = Text.trim text := by
    rw [Text.lower_eq_self_iff, Text.trim, String.toList_ofList, htrim]
    exact hsmall
  rw [Text.lower_trim, Text.trim, Text.trim, String.ofList_inj] at hkept
  rw [hkept, htrim]

def exactCount (keyword : String) (n : Nat) : Except RequestError (Option UInt64) :=
  if n = 0 then .ok none
  else if n < wordLimit then .ok (some (UInt64.ofNat n))
  else .error (.notANumber keyword)

/-- The count that is read. Of the numbers beyond 64 bits, those up to half a step between doubles
are rounded down, and cut off then. -/
def roundedCount (keyword : String) (n : Nat) : Except RequestError (Option UInt64) :=
  if n = 0 then .ok none
  else if n ≤ wordLimit + 2048 then
    .ok (some (UInt64.ofNat (min (Double.rounded n) (wordLimit - 1))))
  else .error (.notANumber keyword)

section Reading

variable {n : Nat}

theorem rounded_le_wordLimit_iff : Double.rounded n ≤ wordLimit ↔ n ≤ wordLimit + 2048 := by
  have hlast : Double.rounded (wordLimit + 2048) = wordLimit := by decide +kernel
  have hnext : wordLimit < Double.rounded (wordLimit + 2049) := by decide +kernel
  constructor
  · intro h
    by_contra hlarge
    have hmono : Double.rounded (wordLimit + 2049) ≤ Double.rounded n :=
      Double.rounded_mono (by omega)
    omega
  · intro h
    calc
      Double.rounded n ≤ Double.rounded (wordLimit + 2048) := Double.rounded_mono h
      _ = wordLimit := hlast

theorem rankOfNat_lt_infinityRank (h : n ≤ wordLimit + 2048) :
    Double.rankOfNat n < Double.infinityRank := by
  have hlast : Double.rankOfNat (wordLimit + 2048) < Double.infinityRank := by decide +kernel
  exact Nat.lt_of_le_of_lt (Double.rankOfNat_mono h) hlast

/-- What is made of a text that has no other characters than blanks, by the whole number it is. -/
theorem Descriptor.readCount_eq {raw : String} (hne : Text.trimChars raw.toList ≠ [])
    (keyword : String) : readCount keyword raw =
      match (readDouble? (Text.trimChars raw.toList)).bind Double.toNat? with
      | none => .error (.notANumber keyword)
      | some m =>
        if m = 0 then .ok none
        else if m ≤ wordLimit then .ok (some (UInt64.ofNat (min m (wordLimit - 1))))
        else .error (.notANumber keyword) := by
  have hempty : (Text.trimChars raw.toList).isEmpty = false := by simpa using hne
  rw [readCount, hempty]
  refine (if_neg Bool.false_ne_true).trans ?_
  cases (readDouble? (Text.trimChars raw.toList)).bind Double.toNat? <;> rfl

theorem Descriptor.readCount_of_writesCount {raw : String} (h : WritesCount raw n)
    (keyword : String) : readCount keyword raw = roundedCount keyword n := by
  obtain ⟨sign, digits, hsign, hne, hdigits, rfl, htrim⟩ := h
  have hchars : Text.trimChars raw.toList ≠ [] := by
    rw [htrim]
    simpa [digitChars] using fun _ => hne
  rw [readCount_eq hchars, htrim, readDouble?_digits hsign hne hdigits, Option.bind_some,
    roundedCount]
  by_cases hlarge : ofDigits digits ≤ wordLimit + 2048
  · rw [Double.toNat?_ofRatio_one (rankOfNat_lt_infinityRank hlarge), if_pos hlarge]
    by_cases hzero : ofDigits digits = 0
    · rw [if_pos hzero, hzero]
      exact if_pos (Double.rounded_eq_zero_iff.2 rfl)
    · have hrounded : Double.rounded (ofDigits digits) ≠ 0 := fun h =>
        hzero (Double.rounded_eq_zero_iff.1 h)
      rw [if_neg hzero]
      exact (if_neg hrounded).trans (if_pos (rounded_le_wordLimit_iff.2 hlarge))
  · have hzero : ofDigits digits ≠ 0 := fun h => hlarge (by omega)
    rw [if_neg hzero, if_neg hlarge]
    by_cases hrank : Double.rankOfNat (ofDigits digits) < Double.infinityRank
    · have hrounded : Double.rounded (ofDigits digits) ≠ 0 := fun h =>
        hzero (Double.rounded_eq_zero_iff.1 h)
      have hbeyond : ¬ Double.rounded (ofDigits digits) ≤ wordLimit := fun h =>
        hlarge (rounded_le_wordLimit_iff.1 h)
      rw [Double.toNat?_ofRatio_one hrank]
      exact (if_neg hrounded).trans (if_neg hbeyond)
    · have hnone : (Double.ofRatio false (ofDigits digits) 1).toNat? = none :=
        Double.toNat?_infinity (Nat.le_of_not_lt hrank)
      rw [hnone]

theorem toNat_ofNat_of_lt {m : Nat} (h : m < wordLimit) : (UInt64.ofNat m).toNat = m :=
  UInt64.toNat_ofNat_of_lt' h

/-- Numbers of 64 bits are kept if they are doubles. The greatest is rounded up and cut off again. -/
theorem min_rounded_eq_iff (h : n < wordLimit) :
    min (Double.rounded n) (wordLimit - 1) = n ↔ Double.IsExact n ∨ n = wordLimit - 1 := by
  rw [← Double.rounded_eq_self_iff]
  have hlast : Double.rounded (wordLimit - 1) = wordLimit := by decide +kernel
  by_cases heq : n = wordLimit - 1
  · subst heq
    rw [hlast]
    simp
  · omega

theorem roundedCount_eq_exactCount_iff (keyword : String) :
    roundedCount keyword n = exactCount keyword n ↔
      n < wordLimit ∧ (Double.IsExact n ∨ n = wordLimit - 1) ∨ wordLimit + 2048 < n := by
  have hpos : 0 < wordLimit := by decide
  by_cases hzero : n = 0
  · subst hzero
    have hexact : Double.IsExact 0 := Double.rounded_eq_self_iff.1 (Double.rounded_eq_zero_iff.2 rfl)
    exact iff_of_true rfl (.inl ⟨hpos, .inl hexact⟩)
  · rw [roundedCount, exactCount, if_neg hzero, if_neg hzero]
    by_cases hword : n < wordLimit
    · have hcut : min (Double.rounded n) (wordLimit - 1) < wordLimit := by omega
      have hsame : UInt64.ofNat (min (Double.rounded n) (wordLimit - 1)) = UInt64.ofNat n ↔
          min (Double.rounded n) (wordLimit - 1) = n := by
        rw [← UInt64.toNat_inj, toNat_ofNat_of_lt hcut, toNat_ofNat_of_lt hword]
      have hbelow : ¬ wordLimit + 2048 < n := by omega
      rw [if_pos (by omega), if_pos hword, Except.ok.injEq, Option.some.injEq, hsame,
        min_rounded_eq_iff hword]
      simp [hword, hbelow]
    · rw [if_neg hword]
      by_cases hlarge : n ≤ wordLimit + 2048
      · rw [if_pos hlarge]
        exact iff_of_false (fun h => nomatch h) (by omega)
      · rw [if_neg hlarge]
        exact iff_of_true rfl (.inr (by omega))

end Reading

inductive Bound where
  | skip
  | limit

namespace Bound

open Descriptor

def keyword : Bound → String
  | skip => "skip"
  | limit => "limit"

def set (count : Option UInt64) (descriptor : Descriptor) : Bound → Descriptor
  | skip => { descriptor with skip := count }
  | limit => { descriptor with limit := count }

/-- What is read before a count: a fault of the limit is told first. -/
def before (params : Params) : Bound → Except RequestError Unit
  | skip => (countOf params "limit").map fun _ => ()
  | limit => .ok ()

def outcome (types : FieldTypes) (pairs : List (String × String))
    (count : Except RequestError (Option UInt64)) (bound : Bound) :
    Except RequestError Descriptor := do
  bound.before (.ofPairs pairs)
  let count ← count
  let rest ← ofParams types (.ofPairs (Params.withoutKey bound.keyword pairs))
  return bound.set count rest

def Gives (pairs : List (String × String)) (text : String) (bound : Bound) : Prop :=
  ∃ key, pairs.filter (fun pair => Params.foldKey pair.1 = bound.keyword) = [(key, text)]

/-- Every request with this text for the count asks for the number. -/
def Keeps (text : String) (n : Nat) (bound : Bound) : Prop :=
  ∀ types pairs, bound.Gives pairs text →
    ofParams types (.ofPairs pairs) = bound.outcome types pairs (exactCount bound.keyword n)

variable {bound : Bound} {types : FieldTypes} {pairs : List (String × String)} {text : String}
  {n : Nat}

theorem ofParams_eq_outcome (bound : Bound) (types : FieldTypes) (pairs : List (String × String)) :
    ofParams types (.ofPairs pairs) =
      bound.outcome types pairs (countOf (.ofPairs pairs) bound.keyword) := by
  have habsent : countOf (.ofPairs (Params.withoutKey bound.keyword pairs)) bound.keyword =
      .ok none := countOf_of_absent (Params.get?_withoutKey_self pairs bound.keyword)
  have hfilter : filterOf types (.ofPairs (Params.withoutKey bound.keyword pairs)) =
      filterOf types (.ofPairs pairs) :=
    filterOf_withoutKey types pairs (by cases bound <;> decide)
  have hquestion : questionOf (.ofPairs (Params.withoutKey bound.keyword pairs)) =
      questionOf (.ofPairs pairs) := questionOf_keepKeys _ pairs (by cases bound <;> decide)
  have hsort : sortOf (.ofPairs (Params.withoutKey bound.keyword pairs)) =
      sortOf (.ofPairs pairs) := sortOf_keepKeys _ pairs (by cases bound <;> decide)
  cases bound with
  | skip =>
    have hlimit : countOf (.ofPairs (Params.withoutKey "skip" pairs)) "limit" =
        countOf (.ofPairs pairs) "limit" := countOf_withoutKey pairs (by decide)
    simp only [keyword] at habsent hfilter hquestion hsort
    simp only [outcome, before, keyword, ofParams, habsent, hfilter, hquestion, hsort, hlimit]
    cases countOf (.ofPairs pairs) "limit" <;> cases countOf (.ofPairs pairs) "skip" <;>
      cases filterOf types (.ofPairs pairs) <;> cases questionOf (.ofPairs pairs) <;> rfl
  | limit =>
    have hskip : countOf (.ofPairs (Params.withoutKey "limit" pairs)) "skip" =
        countOf (.ofPairs pairs) "skip" := countOf_withoutKey pairs (by decide)
    simp only [keyword] at habsent hfilter hquestion hsort
    simp only [outcome, before, keyword, ofParams, habsent, hfilter, hquestion, hsort, hskip]
    cases countOf (.ofPairs pairs) "limit" <;> cases countOf (.ofPairs pairs) "skip" <;>
      cases filterOf types (.ofPairs pairs) <;> cases questionOf (.ofPairs pairs) <;> rfl

theorem countOf_of_gives (hgives : bound.Gives pairs text) (h : WritesCount text n) :
    countOf (.ofPairs pairs) bound.keyword = roundedCount bound.keyword n := by
  obtain ⟨key, hkey⟩ := hgives
  have hvalues : Params.valuesOf bound.keyword pairs = [Text.lower text] := by
    rw [Params.valuesOf, hkey, List.map_singleton]
  have hget : (Params.ofPairs pairs).get? bound.keyword = some [Text.lower text] := by
    rw [Params.get?_ofPairs, hvalues, if_neg (List.cons_ne_nil _ _)]
  rw [countOf_of_single hget, readCount_of_writesCount h.lower]

theorem ofParams_of_gives (hgives : bound.Gives pairs text) (h : WritesCount text n)
    (types : FieldTypes) :
    ofParams types (.ofPairs pairs) =
      bound.outcome types pairs (roundedCount bound.keyword n) := by
  rw [ofParams_eq_outcome bound, countOf_of_gives hgives h]

section Alone

theorem foldKey_keyword (bound : Bound) : Params.foldKey bound.keyword = bound.keyword := by
  cases bound <;> decide +kernel

theorem gives_alone (bound : Bound) (text : String) :
    bound.Gives [(bound.keyword, text)] text :=
  ⟨bound.keyword, by simp [foldKey_keyword]⟩

theorem before_alone (bound : Bound) (text : String) :
    bound.before (.ofPairs [(bound.keyword, text)]) = .ok () := by
  cases bound with
  | skip =>
    have hother : Params.foldKey "skip" ≠ "limit" := by decide +kernel
    have habsent : (Params.ofPairs [("skip", text)]).get? "limit" = none := by
      rw [Params.get?_ofPairs, if_pos (by simp [Params.valuesOf, hother])]
    rw [before, keyword, countOf_of_absent habsent]
    rfl
  | limit => rfl

theorem outcome_alone (bound : Bound) (text : String) (count : Except RequestError (Option UInt64)) :
    bound.outcome [] [(bound.keyword, text)] count = count.map fun count => bound.set count {} := by
  have hrest : Params.withoutKey bound.keyword [(bound.keyword, text)] = [] := by
    simp [Params.withoutKey, Params.keepKeys, foldKey_keyword]
  rw [outcome, before_alone, hrest]
  cases count <;> rfl

/-- A request of one count asks for that count. -/
theorem ofParams_alone (bound : Bound) (h : WritesCount text n) :
    ofParams [] (.ofPairs [(bound.keyword, text)]) =
      (roundedCount bound.keyword n).map fun count => bound.set count {} := by
  rw [ofParams_of_gives (bound.gives_alone text) h, outcome_alone]

theorem set_injective {bound : Bound} {first second : Except RequestError (Option UInt64)}
    (h : (first.map fun count => bound.set count {}) = second.map fun count => bound.set count {}) :
    first = second := by
  cases first with
  | error e =>
    cases second with
    | error e' => rw [Except.error.inj h]
    | ok m => cases h
  | ok m =>
    cases second with
    | error e => cases h
    | ok k =>
      have hset := Except.ok.inj h
      cases bound with
      | skip => exact congrArg Except.ok (congrArg Descriptor.skip hset)
      | limit => exact congrArg Except.ok (congrArg Descriptor.limit hset)

end Alone

theorem keeps_iff (bound : Bound) (h : WritesCount text n) :
    bound.Keeps text n ↔ roundedCount bound.keyword n = exactCount bound.keyword n := by
  constructor
  · intro hkeeps
    have halone := hkeeps [] _ (bound.gives_alone text)
    rw [outcome_alone, ofParams_alone bound h] at halone
    exact set_injective halone
  · intro hsame types pairs hgives
    rw [ofParams_of_gives hgives h, hsame]

/-- A text that writes a number is read as the count that rounding makes of it. That is the number in
every request, and a number beyond 64 bits is refused in every request, exactly if the number of 64
bits has only as many bits as a double or is the greatest, or the number beyond them is by more than
half a step between doubles. -/
theorem count_kept_iff (bound : Bound) (h : WritesCount text n) :
    (∀ types pairs, bound.Gives pairs text → ofParams types (.ofPairs pairs) =
      bound.outcome types pairs (roundedCount bound.keyword n)) ∧
    (bound.Keeps text n ↔
      n < wordLimit ∧ (Double.IsExact n ∨ n = wordLimit - 1) ∨ wordLimit + 2048 < n) := by
  constructor
  · intro types pairs hgives
    exact ofParams_of_gives hgives h types
  · rw [keeps_iff bound h, roundedCount_eq_exactCount_iff]

/-- The greatest number of 64 bits is rounded up, out of them, and cut off to itself. -/
theorem count_kept_iff_greatest :
    let text := " +018446744073709551615"
    WritesCount text 18446744073709551615 ∧ limit.Gives [(" Limit", text)] text ∧
      limit.Keeps text 18446744073709551615 ∧
      ofParams [] (.ofPairs [(" Limit", text)]) = .ok { limit := some 18446744073709551615 } := by
  intro text
  have hwrites : WritesCount text 18446744073709551615 :=
    ⟨['+'], [0, 1, 8, 4, 4, 6, 7, 4, 4, 0, 7, 3, 7, 0, 9, 5, 5, 1, 6, 1, 5], .inr rfl, by decide,
      by decide, by decide +kernel, by decide +kernel⟩
  have hgives : limit.Gives [(" Limit", text)] text := by
    have hkey : Params.foldKey " Limit" = limit.keyword := by decide +kernel
    exact ⟨" Limit", by simp [hkey]⟩
  have hkeeps := (count_kept_iff limit hwrites).2.2 (.inl ⟨by decide, .inr (by decide)⟩)
  refine ⟨hwrites, hgives, hkeeps, (hkeeps [] _ hgives).trans ?_⟩
  have hexact : exactCount limit.keyword 18446744073709551615 =
      .ok (some 18446744073709551615) := by decide +kernel
  have hrest : Params.withoutKey limit.keyword [(" Limit", text)] = [] := by decide +kernel
  rw [outcome, hexact, hrest]
  rfl

/-- The first number beyond 64 bits is cut off instead of refused, and one more than a double of 53
bits is rounded to it. -/
theorem counts_lost :
    WritesCount "18446744073709551616" 18446744073709551616 ∧
      exactCount "skip" 18446744073709551616 = .error (.notANumber "skip") ∧
      ofParams [] (.ofPairs [("skip", "18446744073709551616")]) =
        .ok { skip := some 18446744073709551615 } ∧
      ¬ skip.Keeps "18446744073709551616" 18446744073709551616 ∧
      WritesCount "9007199254740993" 9007199254740993 ∧
      exactCount "skip" 9007199254740993 = .ok (some 9007199254740993) ∧
      ofParams [] (.ofPairs [("skip", "9007199254740993")]) =
        .ok { skip := some 9007199254740992 } ∧
      ¬ skip.Keeps "9007199254740993" 9007199254740993 := by
  have hword : WritesCount "18446744073709551616" 18446744073709551616 :=
    ⟨[], [1, 8, 4, 4, 6, 7, 4, 4, 0, 7, 3, 7, 0, 9, 5, 5, 1, 6, 1, 6], .inl rfl, by decide,
      by decide, by decide +kernel, by decide +kernel⟩
  have hodd : WritesCount "9007199254740993" 9007199254740993 :=
    ⟨[], [9, 0, 0, 7, 1, 9, 9, 2, 5, 4, 7, 4, 0, 9, 9, 3], .inl rfl, by decide, by decide,
      by decide +kernel, by decide +kernel⟩
  have hclamped : roundedCount "skip" 18446744073709551616 = .ok (some 18446744073709551615) := by
    decide +kernel
  have hrounded : roundedCount "skip" 9007199254740993 = .ok (some 9007199254740992) := by
    decide +kernel
  have hrefused : exactCount "skip" 18446744073709551616 = .error (.notANumber "skip") := by
    decide +kernel
  have hexact : exactCount "skip" 9007199254740993 = .ok (some 9007199254740993) := by
    decide +kernel
  refine ⟨hword, hrefused, ?_, ?_, hodd, hexact, ?_, ?_⟩
  · have halone := ofParams_alone skip hword
    rw [keyword, hclamped] at halone
    exact halone
  · rw [keeps_iff skip hword, keyword, hclamped, hrefused]
    rintro ⟨⟩
  · have halone := ofParams_alone skip hodd
    rw [keyword, hrounded] at halone
    exact halone
  · rw [keeps_iff skip hodd, keyword, hrounded, hexact]
    decide

end Bound

end Songbook
