/-!
# Moments in universal time

A moment is a count of seconds since the start of 1970 and a fraction in nanoseconds; a fraction of
a second or more stands for a leap second. Moments are compared chronologically and written in the
RFC 3339 form.
-/

namespace FleetDashboard

/-- A moment in universal time. -/
structure Instant where
  /-- Whole seconds since 1970-01-01T00:00:00. -/
  seconds : Int
  /-- Nanoseconds within the second; `10 ^ 9` and more within a leap second. -/
  nanos : Nat
deriving DecidableEq

/-- A day of the Gregorian calendar. -/
structure CivilDate where
  /-- The year, zero and negative ones included. -/
  year : Int
  /-- The month, from 1. -/
  month : Nat
  /-- The day of the month, from 1. -/
  day : Nat
deriving DecidableEq

namespace CivilDate

/-- Whether February has 29 days. -/
def isLeap (year : Int) : Bool :=
  year % 4 == 0 && (year % 100 != 0 || year % 400 == 0)

/-- How many days a month has. -/
def daysInMonth (year : Int) (month : Nat) : Nat :=
  if month == 2 then (if isLeap year then 29 else 28)
  else if month == 4 || month == 6 || month == 9 || month == 11 then 30
  else 31

/-- Days since 1970-01-01, counted in years that start in March. -/
def toDays (d : CivilDate) : Int :=
  let y := if d.month ≤ 2 then d.year - 1 else d.year
  let era := y / 400
  let yearOfEra := y - era * 400
  let shifted : Int := if 2 < d.month then d.month - 3 else d.month + 9
  let dayOfYear := (153 * shifted + 2) / 5 + d.day - 1
  let dayOfEra := yearOfEra * 365 + yearOfEra / 4 - yearOfEra / 100 + dayOfYear
  era * 146097 + dayOfEra - 719468

/-- The day that many days after 1970-01-01. -/
def ofDays (days : Int) : CivilDate :=
  let z := days + 719468
  let era := z / 146097
  let dayOfEra := z - era * 146097
  let yearOfEra :=
    (dayOfEra - dayOfEra / 1460 + dayOfEra / 36524 - dayOfEra / 146096) / 365
  let dayOfYear := dayOfEra - (365 * yearOfEra + yearOfEra / 4 - yearOfEra / 100)
  let shifted := (5 * dayOfYear + 2) / 153
  let month := if shifted < 10 then shifted + 3 else shifted - 9
  { year := yearOfEra + era * 400 + (if month ≤ 2 then 1 else 0)
    month := month.toNat
    day := (dayOfYear - (153 * shifted + 2) / 5 + 1).toNat }

end CivilDate

namespace Instant

/-- Chronological order. -/
def compare (a b : Instant) : Ordering :=
  (Ord.compare a.seconds b.seconds).then (Ord.compare a.nanos b.nanos)

/-- Comparing in reverse reverses the answer. -/
theorem compare_swap (a b : Instant) : (compare a b).swap = compare b a := by
  simp only [compare, Ordering.swap_then, Int.compare_swap, Nat.compare_swap]

/-- The nanoseconds of a second. -/
def nanosPerSecond : Nat := 1000000000

/-- The moment without its fraction of a second. -/
def wholeSecond (t : Instant) : Instant :=
  { t with nanos := t.nanos / nanosPerSecond * nanosPerSecond }

/-- A number with at least `width` digits. -/
def padded (width n : Nat) : String :=
  let digits := Nat.toDigits 10 n
  String.ofList (List.replicate (width - digits.length) '0' ++ digits)

/-- A year with four digits; outside 0 to 9999 with a sign. -/
def yearText (year : Int) : String :=
  if 0 ≤ year && year ≤ 9999 then padded 4 year.toNat
  else (if year < 0 then "-" else "+") ++ padded 4 year.natAbs

/-- The fraction of a second with the fewest of 0, 3, 6 or 9 digits that are exact. -/
def fractionText (nanos : Nat) : String :=
  if nanos = 0 then ""
  else if nanos % 1000000 = 0 then "." ++ padded 3 (nanos / 1000000)
  else if nanos % 1000 = 0 then "." ++ padded 6 (nanos / 1000)
  else "." ++ padded 9 nanos

/-- The RFC 3339 text with the given name of the zero offset. -/
def textWith (zone : String) (t : Instant) : String :=
  let date := CivilDate.ofDays (t.seconds / 86400)
  let second := (t.seconds % 86400).toNat
  let leap := if nanosPerSecond ≤ t.nanos then 1 else 0
  yearText date.year ++ "-" ++ padded 2 date.month ++ "-" ++ padded 2 date.day ++ "T"
    ++ padded 2 (second / 3600) ++ ":" ++ padded 2 (second / 60 % 60) ++ ":"
    ++ padded 2 (second % 60 + leap) ++ fractionText (t.nanos % nanosPerSecond) ++ zone

/-- The text shown in responses, `2024-03-01T12:00:00Z`. -/
def text (t : Instant) : String :=
  t.textWith "Z"

/-- The text with the offset spelt out, `2024-03-01T12:00:00+00:00`. -/
def offsetText (t : Instant) : String :=
  t.textWith "+00:00"

end Instant

end FleetDashboard
