import Songbook.Json.Reader

/-!
# Strings in JSON

Main statement: a string is read back from its written form, whatever follows its closing quote.
-/

namespace Songbook.Json

open Number

variable {rest : List Char} {read : StringRead}

/-- Reading an escaped unit looks ahead for a second one. -/
def StartsWithUnit (cs : List Char) : Prop :=
  ∃ e f g h more, cs = '\\' :: 'u' :: e :: f :: g :: h :: more

theorem readString?_of_not_startsWithUnit {a b c d : Char} (hstart : ¬ StartsWithUnit rest) :
    readString? ('\\' :: 'u' :: a :: b :: c :: d :: rest) = (unit? a b c d).bind fun unit =>
      if isHighSurrogate unit || isLowSurrogate unit then (readString? rest).map StringRead.garble
      else (readString? rest).map (StringRead.push (Char.ofNat unit)) := by
  rw [readString?]
  · rfl
  rintro e f g h more rfl
  exact hstart ⟨e, f, g, h, more, rfl⟩

theorem unit?_of_readString? {a b c d : Char}
    (h : readString? ('\\' :: 'u' :: a :: b :: c :: d :: rest) = some read) :
    ∃ unit, unit? a b c d = some unit := by
  cases hunit : unit? a b c d with
  | some unit => exact ⟨unit, rfl⟩
  | none =>
    by_cases hstart : StartsWithUnit rest
    · obtain ⟨e, f, g, h', more, rfl⟩ := hstart
      rw [readString?, hunit] at h
      cases h
    · rw [readString?_of_not_startsWithUnit hstart, hunit] at h
      cases h

theorem readString?_unit {a b c d : Char} {unit : Nat} (hunit : unit? a b c d = some unit)
    (hhigh : isHighSurrogate unit = false) (hlow : isLowSurrogate unit = false)
    (h : readString? rest = some read) :
    readString? ('\\' :: 'u' :: a :: b :: c :: d :: rest) =
      some (read.push (Char.ofNat unit)) := by
  by_cases hstart : StartsWithUnit rest
  · -- two units are read at once, the second of which is whole since the rest is read
    obtain ⟨e, f, g, h', more, rfl⟩ := hstart
    obtain ⟨second, hsecond⟩ := unit?_of_readString? h
    rw [readString?, hunit, hsecond]
    simp only [hhigh, hlow, Bool.false_and, Bool.or_self, Bool.false_eq_true, if_false, h,
      Option.map_some]
  · rw [readString?_of_not_startsWithUnit hstart, hunit]
    simp [hhigh, hlow, h]

theorem unit?_hexOfByte {n : Nat} (h : n < 0x20) : ∃ a b,
    hexOfByte (UInt8.ofNat n) = [a, b] ∧ unit? '0' '0' a b = some n ∧
      isHighSurrogate n = false ∧ isLowSurrogate n = false := by
  refine ⟨_, _, rfl, ?_⟩
  revert n
  decide

theorem readString?_writeChar (c : Char) (h : readString? rest = some read) :
    readString? (writeChar c ++ rest) = some (read.push c) := by
  unfold writeChar
  split
  case h_8 hquote hslash _ _ _ _ _ =>
    by_cases hcontrol : c.toNat < 0x20
    · obtain ⟨a, b, hhex, hunit, hhigh, hlow⟩ := unit?_hexOfByte hcontrol
      rw [if_pos hcontrol, hhex]
      have hread := readString?_unit hunit hhigh hlow h
      rwa [Char.ofNat_toNat] at hread
    · rw [if_neg hcontrol, List.singleton_append, readString?]
      · rw [if_neg (not_or.2 ⟨hcontrol, hslash⟩), h]
        rfl
      all_goals simp_all
  all_goals simp [readString?, escaped?, h]

theorem readString?_writeChars (cs rest : List Char) :
    readString? (cs.flatMap writeChar ++ '"' :: rest) = some (some cs, rest) := by
  induction cs with
  | nil => rfl
  | cons c cs ih =>
    rw [List.flatMap_cons, List.append_assoc]
    exact readString?_writeChar c ih

end Songbook.Json
