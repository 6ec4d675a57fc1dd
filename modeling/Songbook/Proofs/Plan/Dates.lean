import Songbook.Proofs.Calendar.Texts
import Songbook.Proofs.Plan.NumberFilters
import Songbook.Proofs.Store.Comparisons

/-!
# Dates in requests

The texts that become dates on a field of dates, for any reader of instants that keeps to RFC 3339.
Main statement: a day is its midnight in universal time, a stamp is its instant, all other texts
stay texts, and a clause that asks for a day or later selects the documents from its midnight on.
-/

namespace Songbook

open Calendar

namespace Text

theorem toUpper_of_lt {c : Char} (h : c.toNat < 'a'.toNat) : c.toUpper = c :=
  dif_neg fun hsmall => Nat.not_le.2 h (UInt32.le_iff_toNat_le.1 hsmall.1)

/-- A small letter does not become a character before the capitals. -/
theorem toUpper_eq_self_of_lt {c : Char} (h : c.toUpper.toNat < 'A'.toNat) : c.toUpper = c := by
  by_cases hsmall : 'a'.val ≤ c.val ∧ c.val ≤ 'z'.val
  · have hlow : 97 ≤ c.val.toNat := UInt32.le_iff_toNat_le.1 hsmall.1
    have hhigh : c.val.toNat ≤ 122 := UInt32.le_iff_toNat_le.1 hsmall.2
    rw [show c.toUpper = _ from dif_pos hsmall, Char.toNat] at h
    simp only [UInt32.toNat_add, UInt32.toNat_sub] at h
    change (c.val.toNat + (2 ^ 32 - 97 + 65) % 2 ^ 32) % 2 ^ 32 < 65 at h
    omega
  · exact dif_neg hsmall

theorem map_toUpper_of_lt {cs : List Char} (h : ∀ c ∈ cs, c.toNat < 'a'.toNat) :
    cs.map Char.toUpper = cs := by
  rw [List.map_congr_left fun c hc => toUpper_of_lt (h c hc), List.map_id']

theorem map_toUpper_eq_self_of_lt {cs : List Char}
    (h : ∀ c ∈ cs.map Char.toUpper, c.toNat < 'A'.toNat) : cs.map Char.toUpper = cs := by
  have hkept : ∀ c ∈ cs, c.toUpper = c := fun c hc =>
    toUpper_eq_self_of_lt (h _ (List.mem_map_of_mem hc))
  rw [List.map_congr_left hkept, List.map_id']

/-- Two texts with a letter at a cut are cut at the same place if it stands nowhere else in one of
them. -/
theorem eq_of_append_cons_eq {c d : Char} {as bs cs ds : List Char} (hbs : c ∉ bs) (hds : c ∉ ds)
    (h : as ++ c :: cs = bs ++ d :: ds) : as = bs := by
  rcases List.append_eq_append_iff.1 h with ⟨between, hbetween, htail⟩ | ⟨between, hbetween, htail⟩
  · cases between with
    | nil => simpa using hbetween.symm
    | cons e between =>
      obtain ⟨rfl, -⟩ := List.cons.inj htail
      exact absurd (hbetween ▸ List.mem_append_right _ List.mem_cons_self) hbs
  · cases between with
    | nil => simpa using hbetween
    | cons e between =>
      obtain ⟨-, rfl⟩ := List.cons.inj htail
      exact absurd (List.mem_append_right _ List.mem_cons_self) hds

end Text

namespace Calendar

variable {separates : Char → Prop} {d : Day} {s : Stamp} {c : Char}

def IsLetterT (c : Char) : Prop := c = 'T' ∨ c = 't'

theorem isNumeralText_write (d : Day) : IsNumeralText (String.ofList d.write) := by
  constructor
  · intro h
    have hlength := congrArg List.length (congrArg String.toList h)
    rw [String.toList_ofList, d.length_write] at hlength
    cases hlength
  · intro c hc
    rw [String.toList_ofList] at hc
    rcases Day.mem_write hc with rfl | ⟨n, hn, rfl⟩
    · exact ⟨by decide, by decide⟩
    · rw [Number.toNat_digitChar hn]
      exact ⟨Nat.lt_of_lt_of_le (by decide) (Nat.le_add_right _ n),
        Nat.add_lt_add_left hn '0'.toNat⟩

theorem Day.trimChars_write (d : Day) : Text.trimChars (String.ofList d.write).toList = d.write := by
  rw [Text.trim_eq_self_iff.1 (isNumeralText_write d).trim_eq_self, String.toList_ofList]

theorem IsMark.lt_capitals (h : IsMark c) : c.toNat < 'A'.toNat :=
  Nat.lt_of_le_of_lt h.2 (by decide)

theorem IsMark.lt_small (h : IsMark c) : c.toNat < 'a'.toNat :=
  Nat.lt_trans h.lt_capitals (by decide)

theorem IsMark.isBlank_eq_false (h : IsMark c) : Text.isBlank c = false :=
  Text.isBlank_eq_false (Nat.lt_trans (by decide) h.1) (Nat.lt_trans h.lt_small (by decide))

theorem IsMark.ne_T (h : IsMark c) : c ≠ 'T' := by
  rintro rfl
  exact absurd h.2 (by decide)

theorem Day.map_toUpper_write (d : Day) : d.write.map Char.toUpper = d.write :=
  Text.map_toUpper_of_lt fun _ hc => (Day.isMark_of_mem_write hc).lt_small

def Zone.capitals : Zone → Zone
  | universal letter => universal letter.toUpper
  | ahead hours minutes => ahead hours minutes
  | behind hours minutes => behind hours minutes

theorem Zone.offset_capitals (zone : Zone) : zone.capitals.offset = zone.offset := by
  cases zone <;> rfl

theorem Zone.isValid_capitals {zone : Zone} (h : zone.IsValid) : zone.capitals.IsValid := by
  cases zone with
  | universal letter =>
    rcases h with rfl | rfl
    · exact .inl rfl
    · exact .inl rfl
  | ahead | behind => exact h

theorem Zone.map_toUpper_write (zone : Zone) :
    zone.write.map Char.toUpper = zone.capitals.write := by
  have hshift (hours minutes : Nat) :
      (writeShift hours minutes).map Char.toUpper = writeShift hours minutes :=
    Text.map_toUpper_of_lt fun _ hc => (isMark_of_mem_writeShift hc).lt_small
  cases zone with
  | universal letter => rfl
  | ahead hours minutes => exact congrArg ('+' :: ·) (hshift hours minutes)
  | behind hours minutes => exact congrArg ('-' :: ·) (hshift hours minutes)

namespace Stamp

def capitals (s : Stamp) : Stamp :=
  { s with separator := s.separator.toUpper, zone := s.zone.capitals }

theorem map_toUpper_write (h : s.IsValid separates) :
    s.write.map Char.toUpper = s.capitals.write := by
  have htime : s.time.write.map Char.toUpper = s.time.write :=
    Text.map_toUpper_of_lt fun _ hc => (Time.isMark_of_mem_write h.time hc).lt_small
  rw [write, List.map_append, List.map_cons, List.map_append, Day.map_toUpper_write, htime,
    Zone.map_toUpper_write]
  rfl

theorem isValid_capitals (h : s.IsValid IsLetterT) (hT : separates 'T') :
    s.capitals.IsValid separates where
  day := h.day
  separator := by
    rcases h.separator with hc | hc
    · rw [capitals, hc]
      exact hT
    · rw [capitals, hc]
      exact hT
  time := h.time
  zone := Zone.isValid_capitals h.zone
  leap hsecond := by
    obtain ⟨first, days, hvalid, hfirst, hdays, hminutes⟩ := h.leap hsecond
    exact ⟨first, days, hvalid, hfirst, hdays, by rwa [capitals, Zone.offset_capitals]⟩

theorem trimChars_write (h : s.IsValid IsLetterT) :
    Text.trimChars s.write = s.write := by
  have hblank : ∀ c ∈ s.write, Text.isBlank c = false := by
    intro c hc
    rcases mem_write h hc with rfl | hmark | rfl | rfl
    · rcases h.separator with hc | hc
      · rw [hc]
        decide
      · rw [hc]
        decide
    · exact hmark.isBlank_eq_false
    · decide
    · decide
  exact Text.trimChars_eq_self (fun c hc => hblank c (List.mem_of_head? hc))
    fun c hc => hblank c (List.mem_of_getLast? hc)

theorem length_write_gt (s : Stamp) : 10 < s.write.length := by
  simp only [write, List.length_append, List.length_cons, s.day.length_write]
  omega

def midnight (d : Day) : Stamp :=
  { day := d, separator := 'T', time := ⟨0, 0, 0, []⟩, zone := .universal 'Z' }

theorem write_midnight (d : Day) : (midnight d).write = d.write ++ "T00:00:00Z".toList := by
  have htail : "T00:00:00Z".toList =
      'T' :: ((⟨0, 0, 0, []⟩ : Time).write ++ (Zone.universal 'Z').write) := by decide
  rw [htail]
  rfl

theorem isValid_midnight (hT : separates 'T') (h : d.IsWritable) :
    (midnight d).IsValid separates where
  day := h
  separator := hT
  time := ⟨Nat.zero_le _, Nat.zero_le _, Nat.zero_le _, fun d hd => (List.not_mem_nil hd).elim⟩
  zone := .inl rfl
  leap hsecond := by cases hsecond

/-- What becomes a stamp by the text of midnight is a day. -/
theorem eq_day_of_append {cs : List Char} (h : s.IsValid separates)
    (hcs : cs ++ "T00:00:00Z".toList = s.write) : cs = s.day.write := by
  -- the T of midnight can only be the separator, the one place of a stamp for a T
  have hday : 'T' ∉ s.day.write := fun hc => (Day.isMark_of_mem_write hc).ne_T rfl
  have htail : 'T' ∉ s.time.write ++ s.zone.write := by
    intro hc
    rcases List.mem_append.1 hc with hc | hc
    · exact (Time.isMark_of_mem_write h.time hc).ne_T rfl
    · rcases Zone.mem_write h.zone hc with hmark | hletter | hletter
      · exact hmark.ne_T rfl
      · cases hletter
      · cases hletter
  exact Text.eq_of_append_cons_eq hday htail hcs

end Stamp

section Instants

variable {d : Day} {days : Int}

/-- The instants of the days of four-digit years are far from the ends of 64 bits. -/
theorem toInt_ofInt_instant (h : d.IsWritable) (hdays : Day.epoch.DaysTo d days) {shift : Int}
    (hlow : -86400000 ≤ shift) (hhigh : shift ≤ 2 * 86400000) :
    (Int64.ofInt (86400000 * days + shift)).toInt = 86400000 * days + shift := by
  obtain ⟨hfirst, hlast⟩ := Day.number_bounds h.isValid h.year_lt
  obtain rfl := (Day.daysTo_epoch_iff h.isValid days).1 hdays
  apply Int64.toInt_ofInt_of_le
  · omega
  · omega

theorem toInt_ofInt_midnight (h : d.IsWritable) (hdays : Day.epoch.DaysTo d days) :
    (Int64.ofInt (86400000 * days)).toInt = 86400000 * days := by
  have hinstant := toInt_ofInt_instant h hdays (show (-86400000 : Int) ≤ 0 by decide) (by decide)
  rwa [Int.add_zero] at hinstant

end Instants

end Calendar

namespace FieldType

/-- How a text is read on a field of dates, for any reader of instants. -/
def readDateBy (parse : List Char → Option Int) (raw : String) : Value :=
  let cs := Text.trimChars raw.toList
  let capitals := cs.map Char.toUpper
  match parse capitals with
  | some millis => .date (Int64.ofInt millis)
  | none => match parse (capitals ++ "T00:00:00Z".toList) with
    | some millis => .date (Int64.ofInt millis)
    | none => .string (String.ofList cs)

theorem read_date : read (some .date) = readDateBy readInstant? := rfl

variable {parse : List Char → Option Int} {raw : String} {millis : Int}

theorem readDateBy_instant
    (h : parse ((Text.trimChars raw.toList).map Char.toUpper) = some millis) :
    readDateBy parse raw = .date (Int64.ofInt millis) := by
  rw [readDateBy, h]

theorem readDateBy_day
    (hinstant : parse ((Text.trimChars raw.toList).map Char.toUpper) = none)
    (h : parse ((Text.trimChars raw.toList).map Char.toUpper ++ "T00:00:00Z".toList) =
      some millis) :
    readDateBy parse raw = .date (Int64.ofInt millis) := by
  rw [readDateBy, hinstant, h]

theorem readDateBy_text
    (hinstant : parse ((Text.trimChars raw.toList).map Char.toUpper) = none)
    (h : parse ((Text.trimChars raw.toList).map Char.toUpper ++ "T00:00:00Z".toList) = none) :
    readDateBy parse raw = .string (Text.trim raw) := by
  rw [readDateBy, hinstant, h]
  rfl

end FieldType

/-- What a cast to dates does. A day is its midnight in universal time, and a stamp is its instant,
with its letters large or small; instants are in the order of the days. All other texts stay. -/
structure CastsDates (separates : Char → Prop) (cast : String → Value) : Prop where
  days : ∀ (d : Day) (days : Int), d.IsWritable → Day.epoch.DaysTo d days →
    ∃ midnight : Int64, midnight.toInt = 86400000 * days ∧
      cast (String.ofList d.write) = .date midnight
  stamps : ∀ (s : Stamp) (days : Int), s.IsValid IsLetterT → s.time.second ≤ 59 →
    s.time.fraction.length ≤ 3 → Day.epoch.DaysTo s.day days →
    ∃ instant : Int64,
      instant.toInt = 86400000 * days + s.time.millis - 60000 * s.zone.offset ∧
      cast (String.ofList s.write) = .date instant
  increasing : ∀ d e : Day, d.IsWritable → e.IsWritable → d.Before e →
    ∃ m n : Int64, cast (String.ofList d.write) = .date m ∧
      cast (String.ofList e.write) = .date n ∧ m < n
  texts : ∀ raw : String,
    (∀ s : Stamp, s.IsValid separates → (Text.trimChars raw.toList).map Char.toUpper ≠ s.write) →
    (∀ d : Day, d.IsWritable → Text.trimChars raw.toList ≠ d.write) →
    cast raw = .string (Text.trim raw)
  selects : ∀ (d : Day) (days : Int), d.IsWritable → Day.epoch.DaysTo d days →
    ∀ (field : String) (collation : Collation) (doc : Document),
      (Condition.compare .ge field (cast (String.ofList d.write))).holds collation doc = true ↔
        ∃ m : Int64, .date m ∈ itemsOf (doc.find? field) ∧ 86400000 * days ≤ m.toInt

/-- Only dates compare with a date, and they do by their instants. -/
theorem Condition.holds_compare_date_iff {collation : Collation} {doc : Document} {field : String}
    {r : Relation} (hr : r ≠ .ne) (n : Int64) :
    (compare r field (.date n)).holds collation doc = true ↔
      ∃ m : Int64, .date m ∈ itemsOf (doc.find? field) ∧ r.Between m.toInt n.toInt := by
  rw [holds_compare_iff rfl hr]
  constructor
  · rintro ⟨item, hitem, o, ho, hadmits⟩
    cases Value.compares_of_compare? ho with
    | @dates m _ _ ho => exact ⟨m, hitem, (r.admits_compare _ _).1 (ho ▸ hadmits)⟩
    | numbers _ hnumber => cases hnumber
  · rintro ⟨m, hitem, hbetween⟩
    exact ⟨_, hitem, _, rfl, (r.admits_compare _ _).2 hbetween⟩

namespace FieldType

section Casting

variable {separates : Char → Prop} {parse : List Char → Option Int} {d : Day} {days : Int}
  (hT : separates 'T') (hreads : Reads separates parse)

include hreads

theorem readDateBy_of_neither {raw : String}
    (hstamp : ∀ s : Stamp, s.IsValid separates →
      (Text.trimChars raw.toList).map Char.toUpper ≠ s.write)
    (hday : ∀ d : Day, d.IsWritable → Text.trimChars raw.toList ≠ d.write) :
    readDateBy parse raw = .string (Text.trim raw) := by
  refine readDateBy_text (hreads.eq_none hstamp)
    (hreads.eq_none fun s hs hcs => ?_)
  have hcapitals := Stamp.eq_day_of_append hs hcs
  have hkept : (Text.trimChars raw.toList).map Char.toUpper = Text.trimChars raw.toList := by
    refine Text.map_toUpper_eq_self_of_lt fun c hc => ?_
    rw [hcapitals] at hc
    exact (Day.isMark_of_mem_write hc).lt_capitals
  exact hday s.day hs.day (hkept.symm.trans hcapitals)

include hT

theorem readDateBy_write (h : d.IsWritable) (hdays : Day.epoch.DaysTo d days) :
    readDateBy parse (String.ofList d.write) =
      .date (Int64.ofInt (86400000 * days)) := by
  have hshort : ∀ s : Stamp, s.IsValid separates → d.write ≠ s.write := by
    intro s _ heq
    have hlength := s.length_write_gt
    rw [← heq, d.length_write] at hlength
    omega
  have hparse := hreads.instants (Stamp.midnight d) days (Stamp.isValid_midnight hT h)
    (Nat.zero_le _) (Nat.zero_le _) hdays
  rw [Stamp.write_midnight] at hparse
  have hmillis : (Stamp.midnight d).millis days = 86400000 * days := by
    simp [Stamp.millis, Stamp.midnight, Time.millis, millisecondsOf, Number.ofDigits, Zone.offset]
  rw [hmillis] at hparse
  apply readDateBy_day
  · rw [d.trimChars_write, d.map_toUpper_write]
    exact hreads.eq_none hshort
  · rw [d.trimChars_write, d.map_toUpper_write]
    exact hparse

theorem readDateBy_stamp {s : Stamp} (h : s.IsValid IsLetterT) (hsecond : s.time.second ≤ 59)
    (hfraction : s.time.fraction.length ≤ 3) (hdays : Day.epoch.DaysTo s.day days) :
    readDateBy parse (String.ofList s.write) = .date (Int64.ofInt (s.millis days)) := by
  have hparse := hreads.instants s.capitals days (Stamp.isValid_capitals h hT) hsecond hfraction
    hdays
  rw [show s.capitals.millis days = s.millis days by
    simp only [Stamp.millis, Stamp.capitals, Zone.offset_capitals]] at hparse
  apply readDateBy_instant
  rw [String.toList_ofList, Stamp.trimChars_write h, Stamp.map_toUpper_write h]
  exact hparse

theorem castsDates_readDateBy : CastsDates separates (readDateBy parse) where
  days _ _ h hdays := ⟨_, toInt_ofInt_midnight h hdays, readDateBy_write hT hreads h hdays⟩
  stamps s days h hsecond hfraction hdays := by
    have htime := Time.millis_lt h.time hsecond
    have hzone := Zone.offset_bounds h.zone
    refine ⟨_, ?_, readDateBy_stamp hT hreads h hsecond hfraction hdays⟩
    rw [Stamp.millis, Int.add_sub_assoc]
    exact toInt_ofInt_instant h.day hdays (by omega) (by omega)
  increasing d e hd he hbefore := by
    have hdaysd := (Day.daysTo_epoch_iff hd.isValid d.number).2 rfl
    have hdayse := (Day.daysTo_epoch_iff he.isValid e.number).2 rfl
    have hlt := Day.number_lt_of_before hd.isValid he.isValid hbefore
    refine ⟨_, _, readDateBy_write hT hreads hd hdaysd, readDateBy_write hT hreads he hdayse, ?_⟩
    rw [Int64.lt_iff_toInt_lt, toInt_ofInt_midnight hd hdaysd, toInt_ofInt_midnight he hdayse]
    omega
  texts raw := readDateBy_of_neither hreads
  selects d days h hdays field collation doc := by
    rw [readDateBy_write hT hreads h hdays, Condition.holds_compare_date_iff (by decide),
      toInt_ofInt_midnight h hdays]
    rfl

end Casting

end FieldType

/-- A clause that asks for a day or later compares with what the day is cast to. -/
theorem Descriptor.conditionOf_from_day {types : FieldTypes} {field : String}
    (hf : IsFieldName field) (hkey : field ∉ keywords) (htype : types.get? field = some .date)
    (d : Day) :
    conditionOf types [Relation.ge.wire field (String.ofList d.write)] =
      .ok (some (.compare .ge field (FieldType.read (some .date) (String.ofList d.write)))) := by
  have htext := isNumeralText_write d
  have hcomma : ',' ∉ (String.ofList d.write).toList := by
    rw [String.toList_ofList]
    intro hc
    rcases Day.mem_write hc with hhyphen | ⟨n, hn, hdigit⟩
    · exact absurd hhyphen (by decide)
    · have hcode : ','.toNat = '0'.toNat + n := hdigit ▸ Number.toNat_digitChar hn
      exact absurd (Nat.le.intro hcode.symm) (by decide)
  rw [htext.conditionOf_wire hf hkey, Clause.predicate_of_bare types field hcomma, htype,
    htext.trim_eq_self]
  rfl

/-- Every day has its distance from the epoch, and any reader of RFC 3339 that takes the large T
makes the cast to dates exact. The reader at hand is one of these, and a clause on a field of dates
takes its day through the same cast. -/
theorem FieldType.dates_exact :
    (∀ d : Day, d.IsWritable → ∃ days, Day.epoch.DaysTo d days) ∧
    (∀ (separates : Char → Prop) (parse : List Char → Option Int), separates 'T' →
      Reads separates parse → CastsDates separates (readDateBy parse)) ∧
    CastsDates (·.toNat < 0x80) (read (some .date)) ∧
    ∀ (types : FieldTypes) (field : String), IsFieldName field → field ∉ Descriptor.keywords →
      types.get? field = some .date → ∀ d : Day,
        Descriptor.conditionOf types [Relation.ge.wire field (String.ofList d.write)] =
          .ok (some (.compare .ge field (read (some .date) (String.ofList d.write)))) := by
  refine ⟨fun _ h => Day.exists_daysTo_epoch h.isValid, fun _ _ => castsDates_readDateBy, ?_,
    fun _ _ hf hkey htype => Descriptor.conditionOf_from_day hf hkey htype⟩
  rw [read_date]
  exact castsDates_readDateBy (by decide) reads_readInstant?

/-- The day before the epoch, a leap day whose evening is the next month in universal time, and a
leap day that there is not. -/
theorem FieldType.dates_exact_leapDays :
    Reads (·.toNat < 0x80) readInstant? ∧
    (∃ midnight : Int64, midnight.toInt = -86400000 ∧
      readDateBy readInstant? "1969-12-31" = .date midnight) ∧
    (∃ instant : Int64, instant.toInt = 86400000 * 16861 + 3600250 ∧
      readDateBy readInstant? "2016-02-29t23:30:00.25-01:30" = .date instant) ∧
    readDateBy readInstant? "2015-02-29" = .string "2015-02-29" ∧
    IsFieldName "premiere" ∧
    Descriptor.conditionOf [("premiere", .date)] [("premiere>", "1969-12-31")] =
      .ok (some (.compare .ge "premiere" (read (some .date) "1969-12-31"))) := by
  obtain ⟨-, hany, -, hclause⟩ := dates_exact
  have hcast := hany _ _ (by decide) reads_readInstant?
  let eve : Day := ⟨1969, 12, 31⟩
  let leap : Stamp := ⟨⟨2016, 2, 29⟩, 't', ⟨23, 30, 0, [2, 5]⟩, .behind 1 30⟩
  let missing : Day := ⟨2015, 2, 29⟩
  have heve : String.ofList eve.write = "1969-12-31" := by decide
  have hmissing : String.ofList missing.write = "2015-02-29" := by decide
  have hleap : String.ofList leap.write = "2016-02-29t23:30:00.25-01:30" := by decide
  have hbare : ∀ c ∈ "premiere".toList, Clause.isOperatorChar c = false :=
    Clause.bare_of_all (by decide)
  have hfield : IsFieldName "premiere" := ⟨by decide, by decide, by decide, hbare⟩
  refine ⟨reads_readInstant?, ?_, ?_, ?_, hfield, ?_⟩
  · obtain ⟨midnight, hmidnight, hread⟩ := hcast.days eve (-1) ⟨by decide, by decide⟩
      ((Day.daysTo_epoch_iff (by decide) _).2 (by decide))
    exact ⟨midnight, hmidnight.trans (by decide), heve ▸ hread⟩
  · have hvalid : leap.IsValid IsLetterT :=
      ⟨⟨by decide, by decide⟩, .inr rfl, ⟨by decide, by decide, by decide, by decide⟩,
        ⟨by decide, by decide⟩, fun hsecond => absurd hsecond (by decide)⟩
    obtain ⟨instant, hinstant, hread⟩ := hcast.stamps leap 16860 hvalid (by decide) (by decide)
      ((Day.daysTo_epoch_iff (by decide) _).2 (by decide))
    exact ⟨instant, hinstant.trans (by decide), hleap ▸ hread⟩
  · have hread := hcast.texts (String.ofList missing.write)
    rw [missing.trimChars_write, missing.map_toUpper_write,
      (isNumeralText_write missing).trim_eq_self, hmissing] at hread
    refine hread (fun s _ heq => ?_) fun d hd heq => ?_
    · exact absurd (missing.length_write ▸ heq ▸ s.length_write_gt) (by decide)
    · have hnone : readDay? (missing.write ++ []) = none := by decide
      rw [heq, readDay?_eq_some_iff.2 ⟨hd, rfl⟩] at hnone
      cases hnone
  · have hcondition := hclause [("premiere", .date)] "premiere" hfield (by decide) rfl eve
    rwa [heve] at hcondition

end Songbook
