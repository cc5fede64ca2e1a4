import FleetDashboard.Text.Blank
import FleetDashboard.Text.Digits
import FleetDashboard.Text.Pieces
import FleetDashboard.Time.Instant

/-!
# Reading RFC 3339 times

A date, a `T` or blank, a time with an optional fraction of any length, and an offset. The reader
is lenient: numbers may have fewer digits than usual, a year may carry a sign and then have any
number of digits, blanks may stand before each number and each separator, and `UTC` names the zero
offset. It goes from left to right and reports the first thing that is wrong; whether the parts
make up a moment of the calendar is looked at last.

* `Rfc3339.Flaw`: what is wrong with a text.
* `Rfc3339.Reading`: the parts of a time as they are written.
* `Rfc3339.parse`: the moment that a text names.
-/

namespace FleetDashboard.Rfc3339

/-- Why a text is not a time. -/
inductive Flaw where
  /-- The text ends too early. -/
  | tooShort
  /-- A character that cannot stand where it does. -/
  | invalid
  /-- A number that no calendar or clock shows. -/
  | outOfRange
  /-- A moment beyond the calendar in universal time. -/
  | impossible
  /-- Text behind the offset. -/
  | trailing
deriving DecidableEq

/-- The wording of a flaw. -/
def Flaw.message : Flaw → String
  | .tooShort => "premature end of input"
  | .invalid => "input contains invalid characters"
  | .outOfRange => "input is out of range"
  | .impossible => "no possible date and time matching input"
  | .trailing => "trailing input"

/-! ## Numbers -/

/-- Whether a character is a digit. -/
def isDigit (c : Char) : Bool :=
  (Text.decimalDigit? c).isSome

/-- Numbers from here on are too large to be held. -/
def numberBound : Nat := 9223372036854775808

/-- The number that the given digits in front of a text write. -/
def numberOf (digits cs : List Char) : Except Flaw (Nat × List Char) :=
  if cs.isEmpty then .error .tooShort
  else
    match Text.decimal? digits with
    | none => .error .invalid
    | some n => if numberBound ≤ n then .error .outOfRange else .ok (n, cs.drop digits.length)

/-- A number of one to `most` digits. -/
def number (most : Nat) (cs : List Char) : Except Flaw (Nat × List Char) :=
  numberOf ((cs.take most).takeWhile isDigit) cs

/-- A number of any number of digits. -/
def longNumber (cs : List Char) : Except Flaw (Nat × List Char) :=
  numberOf (cs.takeWhile isDigit) cs

/-- The text without the blanks in front. -/
def skipBlanks (cs : List Char) : List Char :=
  cs.dropWhile Text.isBlank

/-- A number of one or two digits behind blanks, no less than `least` and no greater than
`most`. -/
def numberIn (least most : Nat) (cs : List Char) : Except Flaw (Nat × List Char) := do
  let (n, rest) ← number 2 (skipBlanks cs)
  if least ≤ n && n ≤ most then return (n, rest) else throw .outOfRange

/-- A year behind blanks: up to four digits, or a sign and any number of digits. -/
def year (cs : List Char) : Except Flaw (Int × List Char) := do
  let (n, rest) : Int × List Char ←
    match skipBlanks cs with
    | '-' :: more => (longNumber more).map fun (n, rest) => (-(n : Int), rest)
    | '+' :: more => (longNumber more).map fun (n, rest) => ((n : Int), rest)
    | more => (number 4 more).map fun (n, rest) => ((n : Int), rest)
  if -2147483648 ≤ n && n < 2147483648 then return (n, rest) else throw .outOfRange

/-- One of the given characters. -/
def oneOf (allowed : List Char) : List Char → Except Flaw (List Char)
  | [] => .error .tooShort
  | c :: rest => if c ∈ allowed then .ok rest else .error .invalid

/-- A separator, which blanks may precede. -/
def separator (c : Char) (cs : List Char) : Except Flaw (List Char) :=
  oneOf [c] (skipBlanks cs)

/-- The nanoseconds of a fraction, if there is one; digits beyond the ninth are dropped. -/
def fraction : List Char → Except Flaw (Nat × List Char)
  | '.' :: cs => do
    let (n, rest) ← number 9 cs
    let missing := 9 - (cs.length - rest.length)
    return (n * Nat.pow 10 missing, rest.dropWhile isDigit)
  | cs => .ok (0, cs)

/-! ## The offset -/

/-- Exactly two digits. A last character that takes more than one byte is wrong rather than
missing its neighbour. -/
def twoDigits : List Char → Except Flaw (Nat × List Char)
  | [] => .error .tooShort
  | [c] => if c.toNat < 0x80 then .error .tooShort else .error .invalid
  | c :: d :: rest =>
    match Text.decimal? [c, d] with
    | some n => .ok (n, rest)
    | none => .error .invalid

/-- The seconds of an offset behind its sign: hours and minutes, with colons and blanks between
them as one likes. -/
def offsetClock (cs : List Char) : Except Flaw (Nat × List Char) := do
  let (hours, rest) ← twoDigits cs
  let (minutes, rest) ← twoDigits (rest.dropWhile fun c => c = ':' || Text.isBlank c)
  if 60 ≤ minutes then throw .outOfRange
  return (hours * 3600 + minutes * 60, rest)

/-- The offset in seconds: `Z`, or a sign, hours and minutes. The sign may be U+2212. -/
def signedOffset : List Char → Except Flaw (Int × List Char)
  | [] => .error .tooShort
  | c :: rest =>
    if c = 'Z' || c = 'z' then .ok (0, rest)
    else if c = '+' then (offsetClock rest).map fun (n, rest) => ((n : Int), rest)
    else if c = '-' || c = '\u2212' then
      (offsetClock rest).map fun (n, rest) => (-(n : Int), rest)
    else .error .invalid

/-- The offset behind blanks in seconds; `UTC`, capitals or not, is the zero offset. -/
def offset (cs : List Char) : Except Flaw (Int × List Char) :=
  let cs := skipBlanks cs
  if Text.asciiLower (String.ofList (cs.take 3)) = "utc" then .ok (0, cs.drop 3)
  else signedOffset cs

/-! ## Times -/

/-- The parts of a time as they are written. -/
structure Reading where
  /-- The day in the place of the offset. -/
  date : CivilDate
  /-- The hour, up to 23. -/
  hour : Nat
  /-- The minute, up to 59. -/
  minute : Nat
  /-- The second, up to 60, which is a leap second. -/
  second : Nat
  /-- The nanoseconds of the fraction. -/
  nanos : Nat
  /-- How many seconds the place is ahead of universal time. -/
  offset : Int
deriving DecidableEq

namespace Reading

/-- The days of the calendar that moments may fall on, as years. -/
def firstYear : Int := -262143

/-- The last of these years. -/
def lastYear : Int := 262142

/-- The moment of the parts. The day has to be one of the calendar, the offset less than a day, and
the moment itself in a year of the calendar too. -/
def moment (reading : Reading) : Except Flaw Instant :=
  let date := reading.date
  if date.year < firstYear || lastYear < date.year
      || CivilDate.daysInMonth date.year date.month < date.day then .error .outOfRange
  else if reading.offset ≤ -86400 || 86400 ≤ reading.offset then .error .outOfRange
  else
    let clock : Int := reading.hour * 3600 + reading.minute * 60 + min reading.second 59
    let seconds := date.toDays * 86400 + clock - reading.offset
    let first := CivilDate.toDays { year := firstYear, month := 1, day := 1 } * 86400
    let last := CivilDate.toDays { year := lastYear, month := 12, day := 31 } * 86400 + 86399
    if seconds < first || last < seconds then .error .impossible
    else .ok {
      seconds
      nanos :=
        if reading.second = 60 then reading.nanos + Instant.nanosPerSecond else reading.nanos }

end Reading

/-- The parts of a time. -/
def read (cs : List Char) : Except Flaw (Reading × List Char) := do
  let (year, rest) ← year cs
  let rest ← separator '-' rest
  let (month, rest) ← numberIn 1 12 rest
  let rest ← separator '-' rest
  let (day, rest) ← numberIn 1 31 rest
  let rest ← oneOf ['T', 't', ' '] rest
  let (hour, rest) ← numberIn 0 23 rest
  let rest ← separator ':' rest
  let (minute, rest) ← numberIn 0 59 rest
  let rest ← separator ':' rest
  let (second, rest) ← numberIn 0 60 rest
  let (nanos, rest) ← fraction rest
  let (offset, rest) ← offset rest
  return ({ date := { year, month, day }, hour, minute, second, nanos, offset }, rest)

/-- The moment that a text names. -/
def parse (s : String) : Except Flaw Instant := do
  let (reading, rest) ← read s.toList
  if !(skipBlanks rest).isEmpty then throw .trailing
  reading.moment

end FleetDashboard.Rfc3339
