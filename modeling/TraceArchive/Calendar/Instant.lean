/-!
Instants of universal time, to the millisecond, and their text `Y-MM-DD hh:mm:ss.mmm`.  The years
run from `firstYear` to `lastYear`; an instant outside them is taken for the start of 1970.

The days are those of the proleptic Gregorian calendar.  `Day.number` counts the days of a date from
the first of January 1970 by the lengths of years and months; `Day.ofNumber` finds the date of a
count by the cycle of 400 years, in which a year is taken to begin in March, so that the leap day is
its last.
-/

namespace TraceArchive

/-! ## Days -/

/-- A date of the calendar, valid or not. -/
structure Day where
  year : Int
  month : Nat
  day : Nat
  deriving DecidableEq, Repr

namespace Day

def isLeap (year : Int) : Bool :=
  year % 4 = 0 && (year % 100 ≠ 0 || year % 400 = 0)

def monthLength (year : Int) : Nat → Nat
  | 2 => if isLeap year then 29 else 28
  | 4 | 6 | 9 | 11 => 30
  | _ => 31

/-- The months are those from one to twelve, the days those of the month. -/
def Valid (d : Day) : Prop :=
  1 ≤ d.month ∧ d.month ≤ 12 ∧ 1 ≤ d.day ∧ d.day ≤ monthLength d.year d.month

instance (d : Day) : Decidable d.Valid :=
  inferInstanceAs (Decidable (_ ∧ _ ∧ _ ∧ _))

/-- The days from the first of January of year zero to the first of January of a year. -/
def daysBeforeYear (year : Int) : Int :=
  let past := year - 1
  365 * year + past / 4 - past / 100 + past / 400 + 1

/-- The days of a year before a month. -/
def daysBeforeMonth (year : Int) : Nat → Nat
  | 0 | 1 => 0
  | month + 1 => daysBeforeMonth year month + monthLength year month

/-- The days from the first of January 1970 to a date. -/
def number (d : Day) : Int :=
  daysBeforeYear d.year - daysBeforeYear 1970 + daysBeforeMonth d.year d.month + (d.day - 1)

/-- The date that lies a number of days after the first of January 1970. -/
def ofNumber (days : Int) : Day :=
  let fromMarch := days + 719468
  let cycle := fromMarch / 146097
  let dayOfCycle := (fromMarch % 146097).toNat
  let yearOfCycle :=
    (dayOfCycle - dayOfCycle / 1460 + dayOfCycle / 36524 - dayOfCycle / 146096) / 365
  let dayOfYear := dayOfCycle - (365 * yearOfCycle + yearOfCycle / 4 - yearOfCycle / 100)
  let monthFromMarch := (5 * dayOfYear + 2) / 153
  let day := dayOfYear - (153 * monthFromMarch + 2) / 5 + 1
  let month := if monthFromMarch < 10 then monthFromMarch + 3 else monthFromMarch - 9
  let year := cycle * 400 + yearOfCycle + (if month ≤ 2 then 1 else 0)
  ⟨year, month, day⟩

end Day

/-! ## Instants -/

/-- A length of time: whole seconds, and nanoseconds below one second. -/
structure Duration where
  seconds : UInt64
  nanos : Nat

def nanosPerSecond : Nat := 1000000000

def nanosPerMilli : Nat := 1000000

/-- A duration from seconds and any number of nanoseconds, which carry over; none if the seconds
run out of 64 bits. -/
def Duration.ofParts? (seconds : UInt64) (nanos : UInt32) : Option Duration :=
  let total := seconds.toNat + nanos.toNat / nanosPerSecond
  if total < UInt64.size then some ⟨total.toUInt64, nanos.toNat % nanosPerSecond⟩ else none

/-- What is said of a duration that does not exist. -/
def Duration.overflowMessage : String :=
  "overflow in Duration::new"

/-- An instant: seconds from the start of 1970, and milliseconds below one second. -/
structure Instant where
  seconds : Int
  millis : Nat
  deriving DecidableEq, Repr

namespace Instant

def firstYear : Int := -262143

def lastYear : Int := 262142

def epoch : Instant := ⟨0, 0⟩

/-- The date on which an instant lies. -/
def day (i : Instant) : Day :=
  Day.ofNumber (i.seconds / 86400)

/-- The instant a duration after the start of 1970, its seconds read as a signed number of 64 bits
and its nanoseconds cut to milliseconds. -/
def ofDuration (d : Duration) : Instant :=
  let i : Instant := ⟨Int.bmod d.seconds.toNat UInt64.size, d.nanos / nanosPerMilli⟩
  if firstYear ≤ i.day.year ∧ i.day.year ≤ lastYear then i else epoch

/-- The instant so many seconds after the start of 1970. -/
def ofSeconds (seconds : UInt64) : Instant :=
  ofDuration ⟨seconds, 0⟩

/-- A natural in decimal, with zeros in front up to a width. -/
def padded (width n : Nat) : List Char :=
  let digits := Nat.toDigits 10 n
  List.replicate (width - digits.length) '0' ++ digits

/-- A year with four digits at least, and with a sign where four digits without one would not do. -/
def yearText (year : Int) : List Char :=
  if 0 ≤ year ∧ year ≤ 9999 then padded 4 year.toNat
  else (if year < 0 then '-' else '+') :: padded 4 year.natAbs

def text (i : Instant) : List Char :=
  let d := i.day
  let second := (i.seconds % 86400).toNat
  yearText d.year ++ ('-' :: padded 2 d.month) ++ ('-' :: padded 2 d.day)
    ++ (' ' :: padded 2 (second / 3600)) ++ (':' :: padded 2 (second / 60 % 60))
    ++ (':' :: padded 2 (second % 60)) ++ ('.' :: padded 3 i.millis)

def display (i : Instant) : String :=
  String.ofList i.text

end Instant

end TraceArchive
