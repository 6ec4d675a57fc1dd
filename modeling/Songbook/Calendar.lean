import Songbook.Number.Digits

/-!
# Calendar

Days of the Gregorian calendar, carried back before its introduction, and the RFC 3339 text of an
instant. Instants are milliseconds since the start of 1970 in universal time.
-/

namespace Songbook.Calendar

open Number

structure Day where
  year : Nat
  month : Nat
  day : Nat
  deriving DecidableEq

def isLeapYear (year : Nat) : Bool :=
  year % 4 == 0 && (year % 100 != 0 || year % 400 == 0)

def daysInMonth (year month : Nat) : Nat :=
  if month = 2 then if isLeapYear year then 29 else 28
  else if month = 4 ∨ month = 6 ∨ month = 9 ∨ month = 11 then 30
  else 31

def Day.isValid (d : Day) : Bool :=
  1 ≤ d.month && d.month ≤ 12 && 1 ≤ d.day && d.day ≤ daysInMonth d.year d.month

def daysBeforeYear (year : Nat) : Nat :=
  365 * year + (year + 3) / 4 - (year + 99) / 100 + (year + 399) / 400

def daysBeforeMonth (year month : Nat) : Nat :=
  (List.range' 1 (month - 1)).foldl (fun days m => days + daysInMonth year m) 0

def Day.number (d : Day) : Int :=
  (daysBeforeYear d.year + daysBeforeMonth d.year d.month + d.day : Nat) -
    (daysBeforeYear 1970 + 1 : Nat)

def readFixed? : Nat → List Char → Option (Nat × List Char)
  | 0, cs => some (0, cs)
  | width + 1, cs => do
    let (n, rest) ← readFixed? width cs
    match rest with
    | c :: rest => (digit? c).map fun d => (10 * n + d, rest)
    | [] => none

def expect? (c : Char) : List Char → Option (List Char)
  | [] => none
  | d :: rest => if d = c then some rest else none

def readDay? (cs : List Char) : Option (Day × List Char) := do
  let (year, rest) ← readFixed? 4 cs
  let (month, rest) ← readFixed? 2 (← expect? '-' rest)
  let (day, rest) ← readFixed? 2 (← expect? '-' rest)
  if Day.isValid ⟨year, month, day⟩ then some (⟨year, month, day⟩, rest) else none

def skipSeparator? : List Char → Option (List Char)
  | [] => none
  | c :: rest => if c.toNat < 0x80 then some rest else none

/-- A time of day; second 60 is a leap second. -/
structure Clock where
  hour : Nat
  minute : Nat
  second : Nat
  nanosecond : Nat
  deriving DecidableEq

/-- Reads `HH:MM:SS` and an optional fraction of a second, of which nine digits count. -/
def readClock? (cs : List Char) : Option (Clock × List Char) := do
  let (hour, rest) ← readFixed? 2 cs
  let (minute, rest) ← readFixed? 2 (← expect? ':' rest)
  let (second, rest) ← readFixed? 2 (← expect? ':' rest)
  let (nanosecond, rest) ← readFraction? rest
  if hour ≤ 23 ∧ minute ≤ 59 ∧ second ≤ 60 then some (⟨hour, minute, second, nanosecond⟩, rest)
  else none
where
  readFraction? : List Char → Option (Nat × List Char)
    | '.' :: cs => match takeDigits cs with
      | ([], _) => none
      | (digits, rest) => some (ofDigits ((digits ++ List.replicate 8 0).take 9), rest)
    | cs => some (0, cs)

def readShift? (cs : List Char) : Option Int := do
  let (hours, rest) ← readFixed? 2 cs
  let (minutes, rest) ← readFixed? 2 (← expect? ':' rest)
  if hours ≤ 23 ∧ minutes ≤ 59 ∧ rest.isEmpty then some (60 * hours + minutes) else none

def readOffset? : List Char → Option Int
  | ['Z'] | ['z'] => some 0
  | '+' :: rest => readShift? rest
  | '-' :: rest => (readShift? rest).map (- ·)
  | _ => none

def universalSecond (day : Day) (clock : Clock) (offset : Int) : Int :=
  86400 * day.number + 3600 * clock.hour + 60 * clock.minute + clock.second - 60 * offset

/-- A leap second ends a month of universal time. The universal day is the local one or its
neighbour, so that only the day of the month has to be looked at. -/
def endsMonth (day : Day) (second : Int) : Bool :=
  let dayOfMonth := day.day + (second / 86400 - day.number)
  second % 86400 == 86399 && (dayOfMonth == daysInMonth day.year day.month || dayOfMonth == 0)

/-- The instant of a local day and time. A leap second counts as the last nanosecond before it. -/
def instant? (day : Day) (clock : Clock) (offset : Int) : Option Int :=
  if clock.second = 60 then
    let clock := { clock with second := 59, nanosecond := 999999999 }
    if endsMonth day (universalSecond day clock offset) then instantOf day clock offset else none
  else instantOf day clock offset
where
  instantOf (day : Day) (clock : Clock) (offset : Int) : Int :=
    (1000000000 * universalSecond day clock offset + clock.nanosecond).tdiv 1000000

def readInstant? (cs : List Char) : Option Int := do
  let (day, rest) ← readDay? cs
  let (clock, rest) ← readClock? (← skipSeparator? rest)
  let offset ← readOffset? rest
  instant? day clock offset

end Songbook.Calendar
