import FleetDashboard.Number.Double

/-!
# Shortest decimal text

The fewest digits that read back as a double, and the text that writes them positionally whatever
the exponent. Two decimals of that length may be equally near; a `Tie` says which of them counts.

A finite double is `mantissa * 2 ^ exponent`. The reals that round to it form an interval; for
1, 2, … 17 digits the two neighbours of the value on the decimal grid of that many digits are
tested against the interval in exact integer arithmetic, and the first grid with a hit gives the
digits.
-/

namespace FleetDashboard.Number

/-- A positive real, as a quotient of naturals. -/
structure Ratio where
  /-- The numerator. -/
  num : Nat
  /-- The denominator. -/
  den : Nat
deriving DecidableEq

namespace Ratio

/-- `n * 2 ^ e`. -/
def scaled (n : Nat) (e : Int) : Ratio :=
  if 0 ≤ e then ⟨n * Nat.pow 2 e.toNat, 1⟩ else ⟨n, Nat.pow 2 (-e).toNat⟩

/-- `n * 10 ^ e`. -/
def decimal (n : Nat) (e : Int) : Ratio :=
  if 0 ≤ e then ⟨n * Nat.pow 10 e.toNat, 1⟩ else ⟨n, Nat.pow 10 (-e).toNat⟩

/-- Whether one quotient is less than another. -/
def lt (a b : Ratio) : Bool :=
  a.num * b.den < b.num * a.den

/-- Whether one quotient is at most another. -/
def le (a b : Ratio) : Bool :=
  a.num * b.den ≤ b.num * a.den

/-- The largest whole multiple of `10 ^ e` that is at most the quotient, in units of `10 ^ e`. -/
def floorAt (a : Ratio) (e : Int) : Nat :=
  if 0 ≤ e then a.num / (a.den * Nat.pow 10 e.toNat)
  else a.num * Nat.pow 10 (-e).toNat / a.den

/-- The exponent of the leading decimal digit: the greatest `p` with `10 ^ p ≤ a`. -/
def leadingExponent (a : Ratio) : Int :=
  if a.den ≤ a.num then ((Nat.toDigits 10 (a.num / a.den)).length : Int) - 1
  else
    let digits := (Nat.toDigits 10 (a.den / a.num)).length
    if a.den ≤ a.num * Nat.pow 10 (digits - 1) then 1 - (digits : Int) else -(digits : Int)

end Ratio

/-- A decimal `digits * 10 ^ exponent`. -/
structure Decimal where
  /-- The digits as a number. -/
  digits : Nat
  /-- The power of ten of the last digit. -/
  exponent : Int
deriving DecidableEq

/-- A positive finite double with the interval of reals that round to it. -/
structure Rounding where
  /-- The value. -/
  value : Ratio
  /-- The lower end. -/
  low : Ratio
  /-- The upper end. -/
  high : Ratio
  /-- Whether the ends round to the value too. -/
  closed : Bool

/-- The value and interval of a double with the given biased exponent and fraction. -/
def Rounding.ofFields (exponentField fraction : Nat) : Rounding :=
  let mantissa := if exponentField = 0 then fraction else fraction + 4503599627370496
  let exponent : Int := (max exponentField 1 : Nat) - 1075
  let lowStep := if fraction = 0 && 1 < exponentField then 1 else 2
  { value := .scaled (4 * mantissa) (exponent - 2)
    low := .scaled (4 * mantissa - lowStep) (exponent - 2)
    high := .scaled (4 * mantissa + 2) (exponent - 2)
    closed := mantissa % 2 = 0 }

/-- Whether a real rounds to the value. -/
def Rounding.admits (r : Rounding) (a : Ratio) : Bool :=
  if r.closed then r.low.le a && a.le r.high else r.low.lt a && a.lt r.high

/-- Which of two decimals counts that are equally near to a value. -/
inductive Tie where
  /-- The greater one. -/
  | up
  /-- The one whose last digit is even. -/
  | toEven
deriving DecidableEq

/-- Whether the lower of two neighbours counts, whose digits are `below` and `below + 1` and which
are equally near. -/
def Tie.takesLower (tie : Tie) (below : Nat) : Bool :=
  match tie with
  | .up => false
  | .toEven => below % 2 == 0

/-- The neighbour of the value on the grid of multiples of `10 ^ e` that rounds to it; of two, the
nearer one. -/
def Rounding.onGrid? (r : Rounding) (tie : Tie) (e : Int) : Option Decimal :=
  let below := r.value.floorAt e
  let hitBelow := r.admits (.decimal below e)
  let hitAbove := r.admits (.decimal (below + 1) e)
  if hitBelow && hitAbove then
    let middle := Ratio.decimal (10 * below + 5) (e - 1)
    if r.value.lt middle || (r.value.le middle && tie.takesLower below) then some ⟨below, e⟩
    else some ⟨below + 1, e⟩
  else if hitBelow then some ⟨below, e⟩
  else if hitAbove then some ⟨below + 1, e⟩
  else none

/-- The shortest decimal that rounds to the value, with at most `fuel` more digits than `count`. -/
def Rounding.shortestFrom (r : Rounding) (tie : Tie) (top : Int) : Nat → Nat → Decimal
  | 0, count => ⟨r.value.floorAt (top - count + 1), top - count + 1⟩
  | fuel + 1, count =>
    match r.onGrid? tie (top - count + 1) with
    | some d => d
    | none => r.shortestFrom tie top fuel (count + 1)

/-- The shortest decimal that rounds to the value. Seventeen digits always suffice. -/
def Rounding.shortest (r : Rounding) (tie : Tie) : Decimal :=
  r.shortestFrom tie r.value.leadingExponent 17 1

/-- A decimal written positionally, without zeros that say nothing. -/
def Decimal.positional (d : Decimal) : String :=
  let digits := Nat.toDigits 10 d.digits
  if 0 ≤ d.exponent then
    String.ofList (digits ++ List.replicate d.exponent.toNat '0')
  else
    let places := (-d.exponent).toNat
    let padded := List.replicate (places + 1 - digits.length) '0' ++ digits
    let whole := padded.take (padded.length - places)
    let fraction := (padded.drop (padded.length - places)).reverse.dropWhile (· == '0')
    if fraction.isEmpty then String.ofList whole
    else String.ofList (whole ++ '.' :: fraction.reverse)

/-- The shortest positional text of a double that reads back as it; a tie goes up. -/
def shortestText (x : Double) : String :=
  if x.isNaN then "NaN"
  else
    let sign := if x.isNegative then "-" else ""
    if x.isInfinite then sign ++ "inf"
    else if x.exponentField = 0 && x.fractionField = 0 then sign ++ "0"
    else sign ++
      ((Rounding.ofFields x.exponentField x.fractionField).shortest .up).positional

end FleetDashboard.Number
