import NoteTemplates.Text.Decimal

/-!
# Moments

A moment is a date of the Gregorian calendar, carried back before its introduction, with an
hour and a minute. The weekday comes from the number of days since the first of January of
the year one, which was a Monday.
-/

namespace NoteTemplates

/-- A date with the time of day, to the minute. -/
structure Moment where
  year : Nat
  month : Nat
  day : Nat
  hour : Nat
  minute : Nat
  deriving DecidableEq, Repr

namespace Moment

/-- Whether a year has a twenty-ninth of February. -/
def isLeap (year : Nat) : Bool :=
  year % 4 = 0 && (year % 100 ≠ 0 || year % 400 = 0)

/-- The days of each month of a year. -/
def monthLengths (year : Nat) : List Nat :=
  [31, if isLeap year then 29 else 28, 31, 30, 31, 30, 31, 31, 30, 31, 30, 31]

/-- The days from the first of January of the year one to the moment's day. -/
def dayNumber (t : Moment) : Nat :=
  let past := t.year - 1
  365 * past + past / 4 - past / 100 + past / 400 +
    ((monthLengths t.year).take (t.month - 1)).foldr (· + ·) 0 + (t.day - 1)

/-- The names of the weekdays, the Monday first. -/
def weekdayNames : List Text :=
  ["Monday", "Tuesday", "Wednesday", "Thursday", "Friday", "Saturday", "Sunday"]

/-- The name of the moment's weekday. -/
def weekday (t : Moment) : Text :=
  weekdayNames.getD (t.dayNumber % 7) []

/-- A number with at least two digits. -/
def twoDigits (n : Nat) : Text :=
  if n < 10 then '0' :: Text.ofNat n else Text.ofNat n

/-- Year, month and day; the year has as many digits as it needs. -/
def date (t : Moment) : Text :=
  Text.ofNat t.year ++ "-" ++ twoDigits t.month ++ "-" ++ twoDigits t.day

/-- Hour and minute. -/
def time (t : Moment) : Text :=
  twoDigits t.hour ++ ":" ++ twoDigits t.minute

/-- The date and the time of day. -/
def dateTime (t : Moment) : Text :=
  t.date ++ " " ++ t.time

end Moment
end NoteTemplates
