import Songbook.Number.Power
import Songbook.Proofs.Calendar.Days
import Songbook.Proofs.Number.Reading

/-!
# Texts of instants

The texts of days and of instants that RFC 3339 describes, and what reading makes of them. Main
statements: exactly the texts of stamps are read, and a stamp whose fraction stops at milliseconds
is read as its instant.
-/

namespace Songbook.Calendar

open Number

def writeFixed : Nat → Nat → List Char
  | 0, _ => []
  | width + 1, n => writeFixed width (n / 10) ++ [digitChar (n % 10)]

section Parts

variable {cs rest : List Char}

theorem length_writeFixed (width n : Nat) : (writeFixed width n).length = width := by
  induction width generalizing n with
  | zero => rfl
  | succ width ih => simp [writeFixed, ih]

theorem mem_writeFixed {width n : Nat} {c : Char} (h : c ∈ writeFixed width n) :
    ∃ d, d < 10 ∧ c = digitChar d := by
  induction width generalizing n with
  | zero => cases h
  | succ width ih =>
    rcases List.mem_append.1 h with h | h
    · exact ih h
    · exact ⟨n % 10, Nat.mod_lt _ (by decide), List.mem_singleton.1 h⟩

theorem readFixed?_eq_some_iff {width n : Nat} : readFixed? width cs = some (n, rest) ↔
    n < tenTo width ∧ cs = writeFixed width n ++ rest := by
  -- the reader takes the last digit last, so each step splits it off at the end
  induction width generalizing n rest with
  | zero =>
    rw [readFixed?, Option.some_inj, Prod.mk.injEq]
    constructor
    · rintro ⟨rfl, rfl⟩
      exact ⟨by decide, rfl⟩
    · rintro ⟨hn, rfl⟩
      exact ⟨(Nat.lt_one_iff.1 hn).symm, rfl⟩
  | succ width ih =>
    rw [readFixed?, Option.bind_eq_bind, Option.bind_eq_some_iff, tenTo_succ, writeFixed]
    constructor
    · rintro ⟨⟨high, tail⟩, hhigh, hlow⟩
      obtain ⟨hlt, rfl⟩ := ih.1 hhigh
      cases tail with
      | nil => cases hlow
      | cons c tail =>
        obtain ⟨d, hd, heq⟩ := Option.map_eq_some_iff.1 hlow
        obtain ⟨hten, rfl⟩ := digit?_eq_some_iff.1 hd
        cases heq
        have hdiv : (10 * high + d) / 10 = high := by omega
        have hmod : (10 * high + d) % 10 = d := by omega
        refine ⟨by omega, ?_⟩
        rw [hdiv, hmod, List.append_assoc, List.singleton_append]
    · rintro ⟨hn, rfl⟩
      refine ⟨(n / 10, digitChar (n % 10) :: rest), ih.2 ⟨by omega, ?_⟩, ?_⟩
      · rw [List.append_assoc, List.singleton_append]
      · simp only [digit?_digitChar (Nat.mod_lt n (show 0 < 10 by decide)), Option.map_some]
        rw [Nat.div_add_mod]

theorem expect?_eq_some_iff {c : Char} : expect? c cs = some rest ↔ cs = c :: rest := by
  cases cs with
  | nil => simp [expect?]
  | cons d tail => simp [expect?]

theorem skipSeparator?_eq_some_iff :
    skipSeparator? cs = some rest ↔ ∃ c : Char, c.toNat < 0x80 ∧ cs = c :: rest := by
  cases cs with
  | nil => simp [skipSeparator?]
  | cons c tail =>
    rw [skipSeparator?, Option.ite_none_right_eq_some, Option.some_inj]
    constructor
    · rintro ⟨hc, rfl⟩
      exact ⟨c, hc, rfl⟩
    · rintro ⟨c, hc, heq⟩
      cases heq
      exact ⟨hc, rfl⟩

end Parts

namespace Day

def write (d : Day) : List Char :=
  writeFixed 4 d.year ++ '-' :: (writeFixed 2 d.month ++ '-' :: writeFixed 2 d.day)

structure IsWritable (d : Day) : Prop where
  isValid : d.isValid = true
  year_lt : d.year < 10000

variable {d : Day} {cs rest : List Char}

theorem length_write (d : Day) : d.write.length = 10 := by
  simp [write, length_writeFixed]

theorem mem_write {c : Char} (h : c ∈ d.write) : c = '-' ∨ ∃ n, n < 10 ∧ c = digitChar n := by
  simp only [write, List.mem_append, List.mem_cons] at h
  rcases h with h | h | h | h | h
  · exact .inr (mem_writeFixed h)
  · exact .inl h
  · exact .inr (mem_writeFixed h)
  · exact .inl h
  · exact .inr (mem_writeFixed h)

end Day

theorem readDay?_eq_some_iff {d : Day} {cs rest : List Char} :
    readDay? cs = some (d, rest) ↔ d.IsWritable ∧ cs = d.write ++ rest := by
  simp only [readDay?, Option.bind_eq_bind, Option.bind_eq_some_iff, Prod.exists,
    readFixed?_eq_some_iff, expect?_eq_some_iff, Option.ite_none_right_eq_some, Option.some_inj,
    Prod.mk.injEq]
  constructor
  · rintro ⟨year, _, ⟨hyear, rfl⟩, _, rfl, month, _, ⟨-, rfl⟩, _, rfl, day, _, ⟨-, rfl⟩, hvalid,
      rfl, rfl⟩
    exact ⟨⟨hvalid, hyear⟩, by simp [Day.write]⟩
  · rintro ⟨hd, rfl⟩
    obtain ⟨⟨-, hmonth⟩, -, hday⟩ := Day.isValid_iff.1 hd.isValid
    have hbounds := daysInMonth_bounds d.year d.month
    refine ⟨d.year, _, ⟨hd.year_lt, ?_⟩, _, rfl, d.month, _, ⟨?_, rfl⟩, _, rfl, d.day, rest,
      ⟨?_, rfl⟩, hd.isValid, rfl, rfl⟩
    · simp [Day.write]
    · exact Nat.lt_of_le_of_lt hmonth (by decide)
    · exact Nat.lt_of_le_of_lt (Nat.le_trans hday hbounds.2) (by decide)

def writeShift (hours minutes : Nat) : List Char :=
  writeFixed 2 hours ++ ':' :: writeFixed 2 minutes

structure Time where
  hour : Nat
  minute : Nat
  second : Nat
  fraction : List Nat

def nanosecondsOf (fraction : List Nat) : Nat :=
  ofDigits ((fraction ++ List.replicate 8 0).take 9)

def millisecondsOf (fraction : List Nat) : Nat :=
  ofDigits ((fraction ++ List.replicate 3 0).take 3)

theorem nanosecondsOf_eq {fraction : List Nat} (h : fraction.length ≤ 3) :
    nanosecondsOf fraction = 1000000 * millisecondsOf fraction := by
  have hzeros (digits : List Nat) :
      ofDigits (digits ++ List.replicate 6 0) = 1000000 * ofDigits digits := by
    rw [ofDigits, List.foldl_append, ← ofDigits]
    change 10 * (10 * (10 * (10 * (10 * (10 * ofDigits digits + 0) + 0) + 0) + 0) + 0) + 0 = _
    omega
  rcases fraction with _ | ⟨a, _ | ⟨b, _ | ⟨c, _ | ⟨d, rest⟩⟩⟩⟩
  · rfl
  · exact hzeros [a, 0, 0]
  · exact hzeros [a, b, 0]
  · exact hzeros [a, b, c]
  · simp only [List.length_cons] at h
    omega

/-- Three digits count for the milliseconds. -/
theorem millisecondsOf_lt {fraction : List Nat} (h : ∀ d ∈ fraction, d < 10) :
    millisecondsOf fraction < 1000 := by
  match fraction, h with
  | [], _ => decide
  | [a], h =>
    have ha := h a (by simp)
    change 10 * (10 * (10 * 0 + a) + 0) + 0 < 1000
    omega
  | [a, b], h =>
    have ha := h a (by simp)
    have hb := h b (by simp)
    change 10 * (10 * (10 * 0 + a) + b) + 0 < 1000
    omega
  | a :: b :: c :: _, h =>
    have ha := h a (by simp)
    have hb := h b (by simp)
    have hc := h c (by simp)
    change 10 * (10 * (10 * 0 + a) + b) + c < 1000
    omega

namespace Time

def write (t : Time) : List Char :=
  writeShift t.hour t.minute ++ ':' :: (writeFixed 2 t.second ++ writeFraction t.fraction)

structure IsValid (t : Time) : Prop where
  hour_le : t.hour ≤ 23
  minute_le : t.minute ≤ 59
  second_le : t.second ≤ 60
  digits : ∀ d ∈ t.fraction, d < 10

def clock (t : Time) : Clock := ⟨t.hour, t.minute, t.second, nanosecondsOf t.fraction⟩

def millis (t : Time) : Nat :=
  3600000 * t.hour + 60000 * t.minute + 1000 * t.second + millisecondsOf t.fraction

theorem millis_lt {t : Time} (h : t.IsValid) (hsecond : t.second ≤ 59) : t.millis < 86400000 := by
  have hhour := h.hour_le
  have hminute := h.minute_le
  have hfraction := millisecondsOf_lt h.digits
  unfold millis
  omega

end Time

section Times

variable {cs rest : List Char} {t : Time} {clock : Clock}

theorem exists_of_readFraction? {nanosecond : Nat}
    (h : readClock?.readFraction? cs = some (nanosecond, rest)) :
    ∃ fraction, (∀ d ∈ fraction, d < 10) ∧ nanosecondsOf fraction = nanosecond ∧
      cs = writeFraction fraction ++ rest := by
  unfold readClock?.readFraction? at h
  split at h
  · split at h
    · cases h
    · next tail digits after hne htake =>
      cases h
      obtain ⟨hdigits, rfl⟩ := eq_append_of_takeDigits htake
      refine ⟨digits, hdigits, rfl, ?_⟩
      cases digits with
      | nil => exact (hne rfl).elim
      | cons d digits => rfl
  · cases h
    exact ⟨[], fun d hd => (List.not_mem_nil hd).elim, rfl, rfl⟩

theorem readFraction?_writeFraction {fraction : List Nat} (h : ∀ d ∈ fraction, d < 10)
    (hdigit : takeDigits rest = ([], rest)) (hpoint : rest.head? ≠ some '.') :
    readClock?.readFraction? (writeFraction fraction ++ rest) =
      some (nanosecondsOf fraction, rest) := by
  cases fraction with
  | nil =>
    unfold readClock?.readFraction?
    split
    · next heq =>
      rw [writeFraction, List.nil_append] at heq
      exact absurd (congrArg List.head? heq) hpoint
    · rfl
  | cons d digits =>
    have htake := takeDigits_append h hdigit
    simp only [writeFraction, List.cons_append, readClock?.readFraction?, htake]
    rfl

theorem exists_of_readClock? (h : readClock? cs = some (clock, rest)) :
    ∃ t : Time, t.IsValid ∧ t.clock = clock ∧ cs = t.write ++ rest := by
  simp only [readClock?, Option.bind_eq_bind, Option.bind_eq_some_iff, Prod.exists,
    readFixed?_eq_some_iff, expect?_eq_some_iff, Option.ite_none_right_eq_some, Option.some_inj,
    Prod.mk.injEq] at h
  obtain ⟨hour, _, ⟨-, rfl⟩, _, rfl, minute, _, ⟨-, rfl⟩, _, rfl, second, _, ⟨-, rfl⟩, nanosecond,
    _, hfraction, ⟨hhour, hminute, hsecond⟩, rfl, rfl⟩ := h
  obtain ⟨fraction, hdigits, rfl, rfl⟩ := exists_of_readFraction? hfraction
  exact ⟨⟨hour, minute, second, fraction⟩, ⟨hhour, hminute, hsecond, hdigits⟩, rfl,
    by simp [Time.write, writeShift]⟩

theorem readClock?_write (h : t.IsValid) (hdigit : takeDigits rest = ([], rest))
    (hpoint : rest.head? ≠ some '.') : readClock? (t.write ++ rest) = some (t.clock, rest) := by
  simp only [readClock?, Option.bind_eq_bind, Option.bind_eq_some_iff, Prod.exists,
    readFixed?_eq_some_iff, expect?_eq_some_iff, Option.ite_none_right_eq_some, Option.some_inj,
    Prod.mk.injEq]
  refine ⟨t.hour, _, ⟨Nat.lt_of_le_of_lt h.hour_le (by decide), ?_⟩, _, rfl, t.minute, _,
    ⟨Nat.lt_of_le_of_lt h.minute_le (by decide), rfl⟩, _, rfl, t.second, _,
    ⟨Nat.lt_of_le_of_lt h.second_le (by decide), rfl⟩, _, _,
    readFraction?_writeFraction h.digits hdigit hpoint, ⟨h.hour_le, h.minute_le, h.second_le⟩, rfl,
    rfl⟩
  simp [Time.write, writeShift]

end Times

inductive Zone where
  | universal (letter : Char)
  | ahead (hours minutes : Nat)
  | behind (hours minutes : Nat)

namespace Zone

def write : Zone → List Char
  | universal letter => [letter]
  | ahead hours minutes => '+' :: writeShift hours minutes
  | behind hours minutes => '-' :: writeShift hours minutes

def offset : Zone → Int
  | universal _ => 0
  | ahead hours minutes => 60 * hours + minutes
  | behind hours minutes => -(60 * hours + minutes)

def IsValid : Zone → Prop
  | universal letter => letter = 'Z' ∨ letter = 'z'
  | ahead hours minutes | behind hours minutes => hours ≤ 23 ∧ minutes ≤ 59

variable {zone : Zone}

theorem offset_bounds (h : zone.IsValid) : -1439 ≤ zone.offset ∧ zone.offset ≤ 1439 := by
  cases zone <;> simp only [IsValid, offset] at * <;> omega

theorem not_digit_write (h : zone.IsValid) :
    takeDigits zone.write = ([], zone.write) ∧ zone.write.head? ≠ some '.' := by
  cases zone with
  | universal letter =>
    rcases h with rfl | rfl
    · exact ⟨rfl, by decide⟩
    · exact ⟨rfl, by decide⟩
  | ahead | behind => exact ⟨rfl, by simp [write]⟩

end Zone

theorem readShift?_eq_some_iff {cs : List Char} {shift : Int} : readShift? cs = some shift ↔
    ∃ hours minutes : Nat, (hours ≤ 23 ∧ minutes ≤ 59) ∧ cs = writeShift hours minutes ∧
      60 * hours + minutes = shift := by
  simp only [readShift?, Option.bind_eq_bind, Option.bind_eq_some_iff, Prod.exists,
    readFixed?_eq_some_iff, expect?_eq_some_iff, Option.ite_none_right_eq_some, Option.some_inj,
    List.isEmpty_iff]
  constructor
  · rintro ⟨hours, _, ⟨-, rfl⟩, _, rfl, minutes, _, ⟨-, rfl⟩, ⟨hhours, hminutes, rfl⟩, hshift⟩
    exact ⟨hours, minutes, ⟨hhours, hminutes⟩, by simp [writeShift], hshift⟩
  · rintro ⟨hours, minutes, ⟨hhours, hminutes⟩, rfl, hshift⟩
    exact ⟨hours, _, ⟨Nat.lt_of_le_of_lt hhours (by decide), rfl⟩, _, rfl, minutes, [],
      ⟨Nat.lt_of_le_of_lt hminutes (by decide), (List.append_nil _).symm⟩,
      ⟨hhours, hminutes, rfl⟩, hshift⟩

theorem readOffset?_eq_some_iff {cs : List Char} {offset : Int} : readOffset? cs = some offset ↔
    ∃ zone : Zone, zone.IsValid ∧ cs = zone.write ∧ zone.offset = offset := by
  constructor
  · intro h
    unfold readOffset? at h
    split at h
    · exact ⟨.universal 'Z', .inl rfl, rfl, Option.some_inj.1 h⟩
    · exact ⟨.universal 'z', .inr rfl, rfl, Option.some_inj.1 h⟩
    · obtain ⟨hours, minutes, hbounds, rfl, hshift⟩ := readShift?_eq_some_iff.1 h
      exact ⟨.ahead hours minutes, hbounds, rfl, hshift⟩
    · obtain ⟨shift, hread, rfl⟩ := Option.map_eq_some_iff.1 h
      obtain ⟨hours, minutes, hbounds, rfl, rfl⟩ := readShift?_eq_some_iff.1 hread
      exact ⟨.behind hours minutes, hbounds, rfl, rfl⟩
    · cases h
  · rintro ⟨zone, hzone, rfl, rfl⟩
    cases zone with
    | universal letter =>
      rcases hzone with rfl | rfl
      · rfl
      · rfl
    | ahead hours minutes => exact readShift?_eq_some_iff.2 ⟨hours, minutes, hzone, rfl, rfl⟩
    | behind hours minutes =>
      exact Option.map_eq_some_iff.2
        ⟨_, readShift?_eq_some_iff.2 ⟨hours, minutes, hzone, rfl, rfl⟩, rfl⟩

structure Stamp where
  day : Day
  separator : Char
  time : Time
  zone : Zone

namespace Stamp

def write (s : Stamp) : List Char :=
  s.day.write ++ s.separator :: (s.time.write ++ s.zone.write)

def EndsMonth (s : Stamp) : Prop :=
  ∃ (first : Day) (days : Int), first.isValid = true ∧ first.day = 1 ∧ s.day.DaysTo first days ∧
    60 * (s.time.hour : Int) + s.time.minute + 1 = 1440 * days + s.zone.offset

/-- The parts are in their ranges. Only the last minute of a month may have a second 60. -/
structure IsValid (separates : Char → Prop) (s : Stamp) : Prop where
  day : s.day.IsWritable
  separator : separates s.separator
  time : s.time.IsValid
  zone : s.zone.IsValid
  leap : s.time.second = 60 → s.EndsMonth

def millis (s : Stamp) (days : Int) : Int :=
  86400000 * days + s.time.millis - 60000 * s.zone.offset

end Stamp

theorem readInstant?_eq_some_iff {cs : List Char} {millis : Int} : readInstant? cs = some millis ↔
    ∃ s : Stamp, (s.day.IsWritable ∧ s.separator.toNat < 0x80 ∧ s.time.IsValid ∧ s.zone.IsValid) ∧
      cs = s.write ∧ instant? s.day s.time.clock s.zone.offset = some millis := by
  simp only [readInstant?, Option.bind_eq_bind, Option.bind_eq_some_iff, Prod.exists,
    readDay?_eq_some_iff, skipSeparator?_eq_some_iff, readOffset?_eq_some_iff]
  constructor
  · rintro ⟨day, _, ⟨hday, rfl⟩, _, ⟨separator, hseparator, rfl⟩, clock, _, hclock, offset,
      ⟨zone, hzone, rfl, rfl⟩, hinstant⟩
    obtain ⟨time, htime, rfl, rfl⟩ := exists_of_readClock? hclock
    exact ⟨⟨day, separator, time, zone⟩, ⟨hday, hseparator, htime, hzone⟩, rfl, hinstant⟩
  · rintro ⟨s, ⟨hday, hseparator, htime, hzone⟩, rfl, hinstant⟩
    obtain ⟨hdigit, hpoint⟩ := Zone.not_digit_write hzone
    exact ⟨s.day, _, ⟨hday, rfl⟩, _, ⟨s.separator, hseparator, rfl⟩, s.time.clock, _,
      readClock?_write htime hdigit hpoint, _, ⟨s.zone, hzone, rfl, rfl⟩, hinstant⟩

namespace Stamp

variable {s : Stamp} {cs : List Char}

/-- The universal day is the local one or its neighbour, so the minute ends a month if the local day
does, or if it is the first of a month and the zone is ahead. -/
theorem endsMonth_iff (hday : s.day.isValid = true) (htime : s.time.IsValid)
    (hzone : s.zone.IsValid) (nanosecond : Nat) :
    endsMonth s.day
        (universalSecond s.day ⟨s.time.hour, s.time.minute, 59, nanosecond⟩ s.zone.offset) = true ↔
      s.EndsMonth := by
  obtain ⟨-, hfirst, hlast⟩ := Day.isValid_iff.1 hday
  have hhour := htime.hour_le
  have hminute := htime.minute_le
  obtain ⟨hbehind, hahead⟩ := Zone.offset_bounds hzone
  have hnext := Day.number_next hday
  simp only [endsMonth, universalSecond, EndsMonth, Bool.and_eq_true, Bool.or_eq_true, beq_iff_eq]
  constructor
  · rintro ⟨hmidnight, hmonth⟩
    -- offsets are less than a day, so midnight is the start of the local day or its end
    have hcases : 60 * (s.time.hour : Int) + s.time.minute + 1 = s.zone.offset ∨
        60 * (s.time.hour : Int) + s.time.minute + 1 = 1440 + s.zone.offset := by omega
    rcases hcases with hsame | hlater
    · refine ⟨s.day, 0, hday, by omega, ?_, by omega⟩
      exact (Day.daysTo_iff hday hday 0).2 (by omega)
    · refine ⟨s.day.next, 1, Day.isValid_next hday, ?_, ?_, by omega⟩
      · exact (Day.day_next_eq_one_iff hday).2 (by omega)
      · exact (Day.daysTo_iff hday (Day.isValid_next hday) 1).2 hnext
  · rintro ⟨first, days, hvalid, hone, hdays, hminutes⟩
    rw [Day.daysTo_iff hday hvalid] at hdays
    have hcases : days = 0 ∨ days = 1 := by omega
    rcases hcases with rfl | rfl
    · obtain rfl : s.day = first := Day.eq_of_number_eq hday hvalid (by omega)
      exact ⟨by omega, .inr (by omega)⟩
    · obtain rfl : s.day.next = first :=
        Day.eq_of_number_eq (Day.isValid_next hday) hvalid (by omega)
      have hmonth := (Day.day_next_eq_one_iff hday).1 hone
      exact ⟨by omega, .inl (by omega)⟩

/-- The instant is refused if it is a leap second where there is none. -/
theorem exists_instant?_iff (hday : s.day.isValid = true) (htime : s.time.IsValid)
    (hzone : s.zone.IsValid) :
    (∃ millis, instant? s.day s.time.clock s.zone.offset = some millis) ↔
      (s.time.second = 60 → s.EndsMonth) := by
  have hleap := endsMonth_iff hday htime hzone 999999999
  by_cases hsecond : s.time.second = 60
  · simp only [instant?, Time.clock, hsecond, ↓reduceIte, Option.ite_none_right_eq_some,
      exists_and_left, forall_const]
    exact ⟨fun h => hleap.1 h.1, fun h => ⟨hleap.2 h, _, rfl⟩⟩
  · simp only [instant?, Time.clock, hsecond, ↓reduceIte, false_imp_iff, iff_true]
    exact ⟨_, rfl⟩

theorem instantOf_eq (h : s.time.fraction.length ≤ 3) :
    instant?.instantOf s.day s.time.clock s.zone.offset = s.millis s.day.number := by
  have hmillis : (1000000000 * universalSecond s.day s.time.clock s.zone.offset +
      s.time.clock.nanosecond : Int) = 1000000 * s.millis s.day.number := by
    simp only [universalSecond, Time.clock, nanosecondsOf_eq h, millis, Time.millis]
    omega
  rw [instant?.instantOf, hmillis, Int.mul_tdiv_cancel_left _ (by decide)]

/-- Exactly the texts of stamps are read, with any ASCII character as the separator. -/
theorem exists_readInstant?_iff : (∃ millis, readInstant? cs = some millis) ↔
    ∃ s : Stamp, s.IsValid (·.toNat < 0x80) ∧ cs = s.write := by
  simp only [readInstant?_eq_some_iff]
  constructor
  · rintro ⟨millis, s, ⟨hday, hseparator, htime, hzone⟩, hcs, hinstant⟩
    exact ⟨s, ⟨hday, hseparator, htime, hzone,
      (exists_instant?_iff hday.isValid htime hzone).1 ⟨millis, hinstant⟩⟩, hcs⟩
  · rintro ⟨s, h, hcs⟩
    obtain ⟨millis, hinstant⟩ := (exists_instant?_iff h.day.isValid h.time h.zone).2 h.leap
    exact ⟨millis, s, ⟨h.day, h.separator, h.time, h.zone⟩, hcs, hinstant⟩

/-- A leap second at the end of a year whose local day is the next, and one within a month. -/
example : readInstant? "2017-01-01T00:59:60+01:00".toList = some 1483228799999 ∧
    readInstant? "2016-12-30T23:59:60Z".toList = none := by decide

/-- A fraction that stops at milliseconds is kept whole. -/
theorem readInstant?_write (h : s.IsValid (·.toNat < 0x80)) (hsecond : s.time.second ≤ 59)
    (hfraction : s.time.fraction.length ≤ 3) :
    readInstant? s.write = some (s.millis s.day.number) := by
  refine readInstant?_eq_some_iff.2
    ⟨s, ⟨h.day, h.separator, h.time, h.zone⟩, rfl, ?_⟩
  have hleap : s.time.clock.second ≠ 60 := Nat.ne_of_lt (Nat.lt_of_le_of_lt hsecond (by decide))
  rw [instant?, if_neg hleap, instantOf_eq hfraction]

end Stamp

section Marks

variable {separates : Char → Prop} {c : Char} {d : Day} {t : Time} {zone : Zone} {s : Stamp}

def IsMark (c : Char) : Prop := '*'.toNat < c.toNat ∧ c.toNat ≤ ':'.toNat

theorem isMark_digitChar {n : Nat} (h : n < 10) : IsMark (digitChar n) := by
  rw [IsMark, toNat_digitChar h]
  exact ⟨Nat.lt_of_lt_of_le (by decide) (Nat.le_add_right _ n),
    Nat.le_of_lt (Nat.add_lt_add_left h '0'.toNat)⟩

theorem isMark_of_mem_writeFixed {width n : Nat} (h : c ∈ writeFixed width n) : IsMark c := by
  obtain ⟨d, hd, rfl⟩ := mem_writeFixed h
  exact isMark_digitChar hd

theorem isMark_of_mem_writeShift {hours minutes : Nat} (h : c ∈ writeShift hours minutes) :
    IsMark c := by
  simp only [writeShift, List.mem_append, List.mem_cons] at h
  rcases h with h | rfl | h
  · exact isMark_of_mem_writeFixed h
  · exact ⟨by decide, by decide⟩
  · exact isMark_of_mem_writeFixed h

theorem Day.isMark_of_mem_write (h : c ∈ d.write) : IsMark c := by
  rcases Day.mem_write h with rfl | ⟨n, hn, rfl⟩
  · exact ⟨by decide, by decide⟩
  · exact isMark_digitChar hn

theorem isMark_of_mem_writeFraction {fraction : List Nat} (hdigits : ∀ d ∈ fraction, d < 10)
    (h : c ∈ writeFraction fraction) : IsMark c := by
  cases fraction with
  | nil => cases h
  | cons d fraction =>
    rcases List.mem_cons.1 h with rfl | h
    · exact ⟨by decide, by decide⟩
    · obtain ⟨n, hn, rfl⟩ := List.mem_map.1 h
      exact isMark_digitChar (hdigits n hn)

theorem Time.isMark_of_mem_write (ht : t.IsValid) (h : c ∈ t.write) : IsMark c := by
  simp only [write, List.mem_append, List.mem_cons] at h
  rcases h with h | rfl | h | h
  · exact isMark_of_mem_writeShift h
  · exact ⟨by decide, by decide⟩
  · exact isMark_of_mem_writeFixed h
  · exact isMark_of_mem_writeFraction ht.digits h

theorem Zone.mem_write (hzone : zone.IsValid) (h : c ∈ zone.write) :
    IsMark c ∨ c = 'Z' ∨ c = 'z' := by
  cases zone with
  | universal letter =>
    obtain rfl := List.mem_singleton.1 h
    exact .inr hzone
  | ahead hours minutes | behind hours minutes =>
    rcases List.mem_cons.1 h with rfl | h
    · exact .inl ⟨by decide, by decide⟩
    · exact .inl (isMark_of_mem_writeShift h)

/-- The separator is the one character of a stamp that may be of another kind. -/
theorem Stamp.mem_write (hs : s.IsValid separates) (h : c ∈ s.write) :
    c = s.separator ∨ IsMark c ∨ c = 'Z' ∨ c = 'z' := by
  simp only [write, List.mem_append, List.mem_cons] at h
  rcases h with h | h | h | h
  · exact .inr (.inl (Day.isMark_of_mem_write h))
  · exact .inl h
  · exact .inr (.inl (Time.isMark_of_mem_write hs.time h))
  · exact .inr (Zone.mem_write hs.zone h)

end Marks

/-- What a reader of such texts has to do: it takes exactly the texts of stamps, and a stamp whose
fraction stops at milliseconds for its instant. -/
structure Reads (separates : Char → Prop) (parse : List Char → Option Int) : Prop where
  texts : ∀ cs, (∃ millis, parse cs = some millis) ↔
    ∃ s : Stamp, s.IsValid separates ∧ cs = s.write
  instants : ∀ (s : Stamp) (days : Int), s.IsValid separates → s.time.second ≤ 59 →
    s.time.fraction.length ≤ 3 → Day.epoch.DaysTo s.day days → parse s.write = some (s.millis days)

theorem Reads.eq_none {separates : Char → Prop} {parse : List Char → Option Int} {cs : List Char}
    (hreads : Reads separates parse) (h : ∀ s : Stamp, s.IsValid separates → cs ≠ s.write) :
    parse cs = none := by
  cases hparse : parse cs with
  | none => rfl
  | some millis =>
    obtain ⟨s, hs, hcs⟩ := (hreads.texts cs).1 ⟨millis, hparse⟩
    exact absurd hcs (h s hs)

theorem reads_readInstant? : Reads (·.toNat < 0x80) readInstant? where
  texts _ := Stamp.exists_readInstant?_iff
  instants s days h hsecond hfraction hdays := by
    rw [Stamp.readInstant?_write h hsecond hfraction,
      (Day.daysTo_epoch_iff h.day.isValid days).1 hdays]

end Songbook.Calendar
