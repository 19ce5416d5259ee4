/-!
# Wall-clock times

A timestamp counts seconds from the start of 1970 in Coordinated Universal Time and nanoseconds from
the start of its second; nanoseconds from `10 ^ 9` on stand inside a leap second. Its text is the date
and the time of day in the proleptic Gregorian calendar with as many fraction digits, in groups of
three, as the nanoseconds need.
-/
namespace LiveFlags

/-- A wall-clock time. -/
structure Timestamp where
  /-- Seconds since the start of 1970. -/
  seconds : Int
  /-- Nanoseconds since the start of the second. -/
  nanos : Nat
  deriving DecidableEq, Repr

namespace Timestamp

/-- The start of 1970. -/
def epoch : Timestamp := ⟨0, 0⟩

instance : Inhabited Timestamp := ⟨epoch⟩

/-- The time so many nanoseconds after the start of 1970. -/
def ofNanos (nanos : Nat) : Timestamp := ⟨(nanos / 1000000000 : Nat), nanos % 1000000000⟩

/-- A day of the calendar. -/
structure Date where
  /-- The year, zero being the year before year one. -/
  year : Int
  /-- The month, from one. -/
  month : Nat
  /-- The day of the month, from one. -/
  day : Nat
  deriving DecidableEq, Repr

/-- The date a number of days after the first of January 1970. Years are counted from March, so that
a leap day ends its year, and in cycles of 400 years of 146097 days each. -/
def Date.ofDays (days : Int) : Date :=
  let shifted := days + 719468
  let cycle := shifted.fdiv 146097
  let dayOfCycle := (shifted.fmod 146097).toNat
  let yearOfCycle :=
    (dayOfCycle - dayOfCycle / 1460 + dayOfCycle / 36524 - dayOfCycle / 146096) / 365
  let dayOfYear := dayOfCycle - (365 * yearOfCycle + yearOfCycle / 4 - yearOfCycle / 100)
  let monthFromMarch := (5 * dayOfYear + 2) / 153
  let day := dayOfYear - (153 * monthFromMarch + 2) / 5 + 1
  let month := if monthFromMarch < 10 then monthFromMarch + 3 else monthFromMarch - 9
  let year := (yearOfCycle : Int) + cycle * 400 + (if month ≤ 2 then 1 else 0)
  ⟨year, month, day⟩

/-- The digits of a number, with zeros in front up to a width. -/
def padded (width value : Nat) : String :=
  let digits := Nat.toDigits 10 value
  String.ofList (List.replicate (width - digits.length) '0' ++ digits)

/-- A year in at least four digits, with a sign if it is negative or has five digits or more. -/
def yearText (year : Int) : String :=
  if year < 0 then "-" ++ padded 4 year.natAbs
  else if 9999 < year then "+" ++ padded 4 year.natAbs
  else padded 4 year.natAbs

/-- The fraction of a second: nothing, or three, six or nine digits after a point. -/
def fractionText (nanos : Nat) : String :=
  if nanos = 0 then ""
  else if nanos % 1000000 = 0 then "." ++ padded 3 (nanos / 1000000)
  else if nanos % 1000 = 0 then "." ++ padded 6 (nanos / 1000)
  else "." ++ padded 9 nanos

/-- The date and the time of day, with `Z` for Coordinated Universal Time. -/
def render (time : Timestamp) : String :=
  let date := Date.ofDays (time.seconds.fdiv 86400)
  let secondOfDay := (time.seconds.fmod 86400).toNat
  let second := secondOfDay % 60 + time.nanos / 1000000000
  yearText date.year ++ "-" ++ padded 2 date.month ++ "-" ++ padded 2 date.day ++ "T"
    ++ padded 2 (secondOfDay / 3600) ++ ":" ++ padded 2 (secondOfDay / 60 % 60) ++ ":"
    ++ padded 2 second ++ fractionText (time.nanos % 1000000000) ++ "Z"

end Timestamp

end LiveFlags
