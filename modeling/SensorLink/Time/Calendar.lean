import SensorLink.Text.Hex

/-!
# Calendar time

A sensor stamps its readings with seconds since the start of 1970, and a reading is shown with the
date and time of day that this is in UTC. The date is found by taking whole years and then whole
months off the count of days.
-/

namespace SensorLink.Calendar

/-- Whether February has 29 days. -/
def isLeap (year : Nat) : Bool := year % 4 = 0 && (year % 100 ≠ 0 || year % 400 = 0)

/-- The days of a year. -/
def yearLength (year : Nat) : Nat := if isLeap year then 366 else 365

/-- The days of each month of a year. -/
def monthLengths (year : Nat) : List Nat :=
  [31, if isLeap year then 29 else 28, 31, 30, 31, 30, 31, 31, 30, 31, 30, 31]

/-- The year of a day counted from the start of `year`, and the day's number in it from zero on. -/
def splitYear (year days : Nat) : Nat × Nat :=
  if days < yearLength year then (year, days)
  else splitYear (year + 1) (days - yearLength year)
termination_by days
decreasing_by
  have : 365 ≤ yearLength year := by unfold yearLength; split <;> decide
  omega

/-- The number of the month that a day of a year falls in, `month` being the number of the first
length, and the day's number in it; both count from one. -/
def splitMonth (month days : Nat) : List Nat → Nat × Nat
  | [] => (month, days + 1)
  | length :: rest =>
    if days < length then (month, days + 1) else splitMonth (month + 1) (days - length) rest

/-- A number in decimal with zeros in front up to a width. -/
def padded (width n : Nat) : String :=
  let digits := Nat.toDigits 10 n
  String.ofList (List.replicate (width - digits.length) '0' ++ digits)

/-- The date and time of day in UTC of a number of seconds since the start of 1970. -/
def utc (seconds : UInt32) : String :=
  let n := seconds.toNat
  let (year, dayOfYear) := splitYear 1970 (n / 86400)
  let (month, day) := splitMonth 1 dayOfYear (monthLengths year)
  let date := padded 4 year ++ "-" ++ padded 2 month ++ "-" ++ padded 2 day
  let time := padded 2 (n % 86400 / 3600) ++ ":" ++ padded 2 (n % 3600 / 60) ++ ":"
    ++ padded 2 (n % 60)
  date ++ "T" ++ time ++ "+00:00"

end SensorLink.Calendar
