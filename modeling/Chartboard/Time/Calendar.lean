/-!
# Dates

Days are counted from the first of January 1970. `Date.ofDays` and `Date.toDays` convert between
a count of days and a date of the proleptic Gregorian calendar; a year starts in March for the
purpose, so that the leap day is its last.
-/

namespace Chartboard

/-- A date of the Gregorian calendar. -/
structure Date where
  /-- The year; zero is the year before the first. -/
  year : Int
  /-- The month, from one to twelve. -/
  month : Nat
  /-- The day of the month, from one on. -/
  day : Nat
  deriving DecidableEq, Repr, Inhabited

namespace Date

/-- Every fourth year is a leap year, but not every hundredth, and then again every
four-hundredth. -/
def isLeapYear (year : Int) : Bool :=
  year % 4 == 0 && (year % 100 != 0 || year % 400 == 0)

/-- The number of days of a month. -/
def daysInMonth (year : Int) : Nat → Nat
  | 2 => if isLeapYear year then 29 else 28
  | 4 | 6 | 9 | 11 => 30
  | _ => 31

/-- The month and the day of the month exist. -/
def isValid (d : Date) : Bool :=
  1 ≤ d.month && d.month ≤ 12 && 1 ≤ d.day && d.day ≤ daysInMonth d.year d.month

/-- The days from the first of January 1970. -/
def toDays (d : Date) : Int :=
  let year := if d.month ≤ 2 then d.year - 1 else d.year
  let era := year.fdiv 400
  let yearOfEra := year - era * 400
  let shifted : Int := if d.month ≤ 2 then d.month + 9 else (d.month : Int) - 3
  let dayOfYear := (153 * shifted + 2) / 5 + d.day - 1
  let dayOfEra := yearOfEra * 365 + yearOfEra / 4 - yearOfEra / 100 + dayOfYear
  era * 146097 + dayOfEra - 719468

/-- The date that is so many days after the first of January 1970. -/
def ofDays (days : Int) : Date :=
  let shifted := days + 719468
  let era := shifted.fdiv 146097
  let dayOfEra := shifted - era * 146097
  let yearOfEra :=
    (dayOfEra - dayOfEra / 1460 + dayOfEra / 36524 - dayOfEra / 146096) / 365
  let dayOfYear := dayOfEra - (365 * yearOfEra + yearOfEra / 4 - yearOfEra / 100)
  let march := (5 * dayOfYear + 2) / 153
  let day := dayOfYear - (153 * march + 2) / 5 + 1
  let month := if march < 10 then march + 3 else march - 9
  let year := yearOfEra + era * 400
  ⟨if month ≤ 2 then year + 1 else year, month.toNat, day.toNat⟩

/-- A number with zeros in front up to a width. -/
def padded (width n : Nat) : String :=
  let digits := Nat.toDigits 10 n
  String.ofList (List.replicate (width - digits.length) '0' ++ digits)

/-- The year in four digits; a year before zero or after 9999 has a sign. -/
def yearText (year : Int) : String :=
  if 0 ≤ year ∧ year ≤ 9999 then padded 4 year.toNat
  else (if year < 0 then "-" else "+") ++ padded 4 year.natAbs

/-- The date as year, month and day with hyphens between them. -/
def text (d : Date) : String :=
  yearText d.year ++ "-" ++ padded 2 d.month ++ "-" ++ padded 2 d.day

/-- The first year for which dates are shown. -/
def firstYear : Int := -262143

/-- The last year for which dates are shown. -/
def lastYear : Int := 262142

/-- The text of a count of days, unless it is out of the range of dates. -/
def textOfDays? (days : Int) : Option String :=
  if toDays ⟨firstYear, 1, 1⟩ ≤ days ∧ days ≤ toDays ⟨lastYear, 12, 31⟩ then
    some (ofDays days).text
  else none

/-- The text of a count of milliseconds since the start of 1970: the date and the time, with a
fraction only if there is one. -/
def textOfMillis? (millis : Int) : Option String :=
  let days := millis.fdiv 86400000
  let rest := (millis - days * 86400000).toNat
  (textOfDays? days).map fun date =>
    let time := padded 2 (rest / 3600000) ++ ":" ++ padded 2 (rest / 60000 % 60) ++ ":"
      ++ padded 2 (rest / 1000 % 60)
    let fraction := if rest % 1000 = 0 then "" else "." ++ padded 3 (rest % 1000)
    date ++ "T" ++ time ++ fraction

end Date

end Chartboard
