import SchemaTables.Files.System

/-!
# Dates and times of day

A moment as a date of the calendar and a time of day, both in universal time.

Years are taken to begin with March, so that the day that leap years add comes last.  A period of
four hundred such years always has the same number of days.
-/

namespace SchemaTables

structure DateTime where
  year : Nat
  month : Nat
  day : Nat
  hour : Nat
  minute : Nat
  second : Nat
  deriving DecidableEq, Inhabited

/-- The days in four hundred years. -/
def daysInPeriod : Nat := 146097

/-- The days from the first of March of the year 0 to the beginning of 1970. -/
def daysBefore1970 : Nat := 719468

def Moment.dateTime (moment : Moment) : DateTime :=
  let days := moment.seconds / 86400 + daysBefore1970
  let dayOfPeriod := days % daysInPeriod
  let yearOfPeriod :=
    (dayOfPeriod - dayOfPeriod / 1460 + dayOfPeriod / 36524 - dayOfPeriod / 146096) / 365
  let dayOfYear := dayOfPeriod - (365 * yearOfPeriod + yearOfPeriod / 4 - yearOfPeriod / 100)
  let monthFromMarch := (5 * dayOfYear + 2) / 153
  let month := if monthFromMarch < 10 then monthFromMarch + 3 else monthFromMarch - 9
  let year := days / daysInPeriod * 400 + yearOfPeriod
  let second := moment.seconds % 86400
  { year := if month ≤ 2 then year + 1 else year
    month := month
    day := dayOfYear - (153 * monthFromMarch + 2) / 5 + 1
    hour := second / 3600
    minute := second / 60 % 60
    second := second % 60 }

/-- A number with zeros in front, up to a width. -/
def padded (width n : Nat) : String :=
  let digits := (toString n).toList
  String.ofList (List.replicate (width - digits.length) '0' ++ digits)

/-- A moment in fourteen digits. -/
def Moment.stamp (moment : Moment) : String :=
  let t := moment.dateTime
  padded 4 t.year ++ padded 2 t.month ++ padded 2 t.day ++ padded 2 t.hour ++ padded 2 t.minute ++
    padded 2 t.second

/-- A moment with marks between its parts, down to microseconds. -/
def Moment.text (moment : Moment) : String :=
  let t := moment.dateTime
  padded 4 t.year ++ "-" ++ padded 2 t.month ++ "-" ++ padded 2 t.day ++ "T" ++
    padded 2 t.hour ++ ":" ++ padded 2 t.minute ++ ":" ++ padded 2 t.second ++ "." ++
    padded 6 moment.microseconds ++ "Z"

/-- The last day of a leap year's February. -/
example : (Moment.mk 951782400 0).stamp = "20000229000000" := by decide +kernel

/-- The last second of a year. -/
example : (Moment.mk 1735689599 5).text = "2024-12-31T23:59:59.000005Z" := by decide +kernel

end SchemaTables
