/-!
Instants of time, counted in microseconds from the start of 1970 in UTC, and the two ways in which
they are written: with a `T`, a fraction where there is one and a `Z`, and to the second with a
blank.
-/

namespace HazardStore

structure Instant where
  microseconds : Int64
deriving DecidableEq

/-- A day of the proleptic Gregorian calendar. -/
structure CalendarDay where
  year : Int
  month : Nat
  day : Nat
deriving DecidableEq

namespace CalendarDay

/-- The day that lies so many days after 1 January 1970. Years are taken to begin in March, so that
a leap day ends its year, and are counted within cycles of 400 years, which all have 146097 days.
-/
def ofDaysSinceEpoch (days : Int) : CalendarDay :=
  let shifted := days + 719468
  let cycle := Int.fdiv shifted 146097
  let dayOfCycle := (Int.fmod shifted 146097).toNat
  let yearOfCycle :=
    (dayOfCycle - dayOfCycle / 1460 + dayOfCycle / 36524 - dayOfCycle / 146096) / 365
  let dayOfYear := dayOfCycle - (365 * yearOfCycle + yearOfCycle / 4 - yearOfCycle / 100)
  let monthFromMarch := (5 * dayOfYear + 2) / 153
  let month := if monthFromMarch < 10 then monthFromMarch + 3 else monthFromMarch - 9
  { year := cycle * 400 + yearOfCycle + (if month ≤ 2 then 1 else 0)
    month := month
    day := dayOfYear - (153 * monthFromMarch + 2) / 5 + 1 }

end CalendarDay

def padded (width number : Nat) : String :=
  let digits := Nat.toDigits 10 number
  String.ofList (List.replicate (width - digits.length) '0' ++ digits)

namespace Instant

def microsecondsPerSecond : Int := 1000000

def secondsPerDay : Int := 86400

def seconds (instant : Instant) : Int :=
  Int.fdiv instant.microseconds.toInt microsecondsPerSecond

def fraction (instant : Instant) : Nat :=
  (Int.fmod instant.microseconds.toInt microsecondsPerSecond).toNat

/-- Four digits; outside the years 0 to 9999 a sign stands in front. -/
def yearText (year : Int) : String :=
  let digits := padded 4 year.natAbs
  if year < 0 then "-" ++ digits else if 9999 < year then "+" ++ digits else digits

def dateText (instant : Instant) : String :=
  let date := CalendarDay.ofDaysSinceEpoch (Int.fdiv instant.seconds secondsPerDay)
  yearText date.year ++ "-" ++ padded 2 date.month ++ "-" ++ padded 2 date.day

def clockText (instant : Instant) : String :=
  let second := (Int.fmod instant.seconds secondsPerDay).toNat
  padded 2 (second / 3600) ++ ":" ++ padded 2 (second / 60 % 60) ++ ":" ++ padded 2 (second % 60)

/-- Nothing, three digits or six, whichever says it exactly. -/
def fractionText (instant : Instant) : String :=
  if instant.fraction = 0 then ""
  else if instant.fraction % 1000 = 0 then "." ++ padded 3 (instant.fraction / 1000)
  else "." ++ padded 6 instant.fraction

/-- The interchange form, such as `2014-03-01T00:00:00Z`. -/
def interchangeText (instant : Instant) : String :=
  instant.dateText ++ "T" ++ instant.clockText ++ instant.fractionText ++ "Z"

/-- The form of tables, such as `2014-03-01 00:00:00`. -/
def tableText (instant : Instant) : String :=
  instant.dateText ++ " " ++ instant.clockText

end Instant

end HazardStore
