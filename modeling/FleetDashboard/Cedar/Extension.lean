import FleetDashboard.Cedar.Value
import FleetDashboard.Time.Instant

/-!
# Extension functions

Functions on decimals, internet addresses, moments and durations. Some make a value from a text and
are called like functions; the others are called like methods on such a value. A call with other
arguments than the function takes has no value.

* `Extension`: the functions, with their names.
* `Extension.valueOf?`: the value of a call.
-/

namespace FleetDashboard.Cedar

/-! ## Reading decimals, moments and durations -/

namespace Reading

/-- A decimal with one to four digits behind its point, in units of a ten-thousandth. -/
def decimal? (s : String) : Option Int := do
  let negative := s.toList.head? == some '-'
  let digits := if negative then s.toList.drop 1 else s.toList
  let (before, after) ← Text.splitOnce '.' digits
  let whole ← Text.decimal? before
  let part ← Text.decimal? after
  if 4 < after.length then none
  let size : Int := whole * 10000 + part * Nat.pow 10 (4 - after.length)
  let units := if negative then -size else size
  if Value.fits units then return units else none

/-- Exactly `count` digits in front of a text, as a number, and what follows them. -/
def digits? (count : Nat) (cs : List Char) : Option (Nat × List Char) := do
  let lead := cs.take count
  if lead.length ≠ count then none
  let n ← Text.decimal? lead
  return (n, cs.drop count)

/-- One given character, and what follows it. -/
def mark? (c : Char) (cs : List Char) : Option (List Char) :=
  Text.strip? [c] cs

/-- A day of the calendar, and what follows it. -/
def date? (cs : List Char) : Option (CivilDate × List Char) := do
  let (year, rest) ← digits? 4 cs
  let rest ← mark? '-' rest
  let (month, rest) ← digits? 2 rest
  let rest ← mark? '-' rest
  let (day, rest) ← digits? 2 rest
  if 1 ≤ month && month ≤ 12 && 1 ≤ day && day ≤ CivilDate.daysInMonth year month then
    return ({ year, month, day }, rest)
  else none

/-- The milliseconds of a time of day behind its letter, and what follows it. -/
def clock? (cs : List Char) : Option (Nat × List Char) := do
  let rest ← mark? 'T' cs
  let (hour, rest) ← digits? 2 rest
  let rest ← mark? ':' rest
  let (minute, rest) ← digits? 2 rest
  let rest ← mark? ':' rest
  let (second, rest) ← digits? 2 rest
  let (part, rest) ←
    match rest with
    | '.' :: more => digits? 3 more
    | _ => some (0, rest)
  if hour ≤ 23 && minute ≤ 59 && second ≤ 59 then
    return (((hour * 60 + minute) * 60 + second) * 1000 + part, rest)
  else none

/-- The milliseconds by which a place is ahead of universal time; nothing may follow them. -/
def zone? : List Char → Option Int
  | ['Z'] => some 0
  | sign :: cs => do
    let (hours, rest) ← digits? 2 cs
    let (minutes, rest) ← digits? 2 rest
    if !rest.isEmpty || 24 ≤ hours || 60 ≤ minutes then none
    let ahead : Int := (hours * 60 + minutes) * 60000
    if sign = '+' then return ahead else if sign = '-' then return -ahead else none
  | [] => none

/-- A moment: a day, perhaps with a time of day and a zone. -/
def moment? (s : String) : Option Int := do
  let (date, rest) ← date? s.toList
  let midnight := date.toDays * 86400000
  if rest.isEmpty then return midnight
  let (clock, rest) ← clock? rest
  let ahead ← zone? rest
  return midnight + clock - ahead

/-- The units of durations in the order in which they are written, with their milliseconds. -/
def durationUnits : List (List Char × Nat) :=
  [(['d'], 86400000), (['h'], 3600000), (['m'], 60000), (['s'], 1000), (['m', 's'], 1)]

/-- The milliseconds of the parts of a duration, of which each unit in turn may be left out. -/
def durationParts? : List (List Char × Nat) → List Char → Option Nat
  | [], cs => if cs.isEmpty then some 0 else none
  | (unit, ms) :: units, cs =>
    let lead := cs.takeWhile (·.isDigit)
    let behind := cs.drop lead.length
    let letters := behind.takeWhile (!·.isDigit)
    if letters = unit then do
      let n ← Text.decimal? lead
      return n * ms + (← durationParts? units (behind.drop unit.length))
    else durationParts? units cs

/-- A duration: numbers with their units, perhaps behind a minus sign. -/
def duration? (s : String) : Option Int := do
  let negative := s.toList.head? == some '-'
  let parts := if negative then s.toList.drop 1 else s.toList
  if parts.isEmpty then none
  let size ← durationParts? durationUnits parts
  let ms : Int := if negative then -(size : Int) else size
  if Value.fits ms then return ms else none

end Reading

/-! ## The functions -/

/-- The extension functions. -/
inductive Extension where
  | decimal
  | ip
  | datetime
  | duration
  | lessThan
  | lessThanOrEqual
  | greaterThan
  | greaterThanOrEqual
  | isIpv4
  | isIpv6
  | isLoopback
  | isMulticast
  | isInRange
  | offset
  | durationSince
  | toDate
  | toTime
  | toMilliseconds
  | toSeconds
  | toMinutes
  | toHours
  | toDays
deriving DecidableEq

namespace Extension

/-- The functions that are called like functions, with their names. -/
def functions : List (String × Extension) :=
  [("decimal", .decimal), ("ip", .ip), ("datetime", .datetime), ("duration", .duration)]

/-- The functions that are called like methods, with their names. -/
def methods : List (String × Extension) :=
  [("lessThan", .lessThan), ("lessThanOrEqual", .lessThanOrEqual), ("greaterThan", .greaterThan),
    ("greaterThanOrEqual", .greaterThanOrEqual), ("isIpv4", .isIpv4), ("isIpv6", .isIpv6),
    ("isLoopback", .isLoopback), ("isMulticast", .isMulticast), ("isInRange", .isInRange),
    ("offset", .offset), ("durationSince", .durationSince), ("toDate", .toDate),
    ("toTime", .toTime), ("toMilliseconds", .toMilliseconds), ("toSeconds", .toSeconds),
    ("toMinutes", .toMinutes), ("toHours", .toHours), ("toDays", .toDays)]

/-- The function of a name in a table. -/
def find? (table : List (String × Extension)) (name : String) : Option Extension :=
  (table.find? fun entry => entry.1 == name).map (·.2)

/-- The milliseconds of a day. -/
def dayLength : Int := 86400000

/-- A moment, if it fits. -/
def momentOf? (ms : Int) : Option Value :=
  if Value.fits ms then some (.moment ms) else none

/-- A duration, if it fits. -/
def durationOf? (ms : Int) : Option Value :=
  if Value.fits ms then some (.duration ms) else none

/-- The value of a call. -/
def valueOf? (function : Extension) (arguments : List Value) : Option Value :=
  match function, arguments with
  | .decimal, [.text s] => (Reading.decimal? s).map .decimal
  | .ip, [.text s] => (AddressRange.ofText? s).map .address
  | .datetime, [.text s] => (Reading.moment? s).map .moment
  | .duration, [.text s] => (Reading.duration? s).map .duration
  | .lessThan, [.decimal a, .decimal b] => some (.bool (a < b))
  | .lessThanOrEqual, [.decimal a, .decimal b] => some (.bool (a ≤ b))
  | .greaterThan, [.decimal a, .decimal b] => some (.bool (b < a))
  | .greaterThanOrEqual, [.decimal a, .decimal b] => some (.bool (b ≤ a))
  | .isIpv4, [.address a] => some (.bool (a.version == .four))
  | .isIpv6, [.address a] => some (.bool (a.version == .six))
  | .isLoopback, [.address a] => some (.bool (a.isWithin (.loopback a.version)))
  | .isMulticast, [.address a] => some (.bool (a.isWithin (.multicast a.version)))
  | .isInRange, [.address a, .address b] => some (.bool (a.isWithin b))
  | .offset, [.moment t, .duration d] => momentOf? (t + d)
  | .durationSince, [.moment t, .moment u] => durationOf? (t - u)
  | .toDate, [.moment t] => momentOf? (t / dayLength * dayLength)
  | .toTime, [.moment t] => some (.duration (t % dayLength))
  | .toMilliseconds, [.duration d] => some (.int d)
  | .toSeconds, [.duration d] => some (.int (d.tdiv 1000))
  | .toMinutes, [.duration d] => some (.int (d.tdiv 60000))
  | .toHours, [.duration d] => some (.int (d.tdiv 3600000))
  | .toDays, [.duration d] => some (.int (d.tdiv 86400000))
  | _, _ => none

end Extension

end FleetDashboard.Cedar
