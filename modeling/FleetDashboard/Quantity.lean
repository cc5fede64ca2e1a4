import FleetDashboard.Json.Reader
import FleetDashboard.Number.Double
import FleetDashboard.Text.Blank

/-!
# Resource quantities

Amounts such as `3800m`, `16Gi` or `1e3`: a signed decimal number followed by nothing, by a unit or
by a power of ten. The value is a double in base units (cores, bytes, pods).
-/

namespace FleetDashboard.Quantity

/-- What follows the number of a quantity. -/
inductive Suffix where
  /-- Nothing. -/
  | bare
  /-- A decimal or binary unit, one of `units`. -/
  | unit (factor : Double)
  /-- A power of ten. -/
  | power (exponent : Int)
deriving DecidableEq

/-- The units and the factors they stand for. -/
def units : List (String × Double) := [
  ("n", .ofDecimal 1 (-9)), ("u", .ofDecimal 1 (-6)), ("m", .ofDecimal 1 (-3)),
  ("k", .ofDecimal 1 3), ("M", .ofDecimal 1 6), ("G", .ofDecimal 1 9), ("T", .ofDecimal 1 12),
  ("P", .ofDecimal 1 15), ("E", .ofDecimal 1 18),
  ("Ki", .ofDecimal 1024 0), ("Mi", .ofDecimal 1048576 0), ("Gi", .ofDecimal 1073741824 0),
  ("Ti", .ofDecimal 1099511627776 0), ("Pi", .ofDecimal 1125899906842624 0),
  ("Ei", .ofDecimal 1152921504606846976 0)]

/-- One. -/
def one : Double := .ofDecimal 1 0

/-- `result * base ^ n` by repeated squaring, each product rounded; at most `fuel` squarings. -/
def powerFrom (base result : Double) (n : Nat) : Nat → Double
  | 0 => result
  | fuel + 1 =>
    let result := if n % 2 = 1 then result * base else result
    if n / 2 = 0 then result else powerFrom (base * base) result (n / 2) fuel

/-- A power of ten; a negative one is the reciprocal of the positive one. -/
def powerOfTen (exponent : Int) : Double :=
  let power := powerFrom (.ofDecimal 10 0) one exponent.natAbs 32
  if exponent < 0 then .ofFloat (1.0 / power.toFloat) else power

/-- The factor of a suffix. -/
def Suffix.factor : Suffix → Double
  | .bare => one
  | .unit factor => factor
  | .power exponent => powerOfTen exponent

/-- Splits a leading sign off; the answer says whether it is a minus. -/
def splitSign : List Char → Bool × List Char
  | '-' :: rest => (true, rest)
  | '+' :: rest => (false, rest)
  | rest => (false, rest)

/-- A signed whole number of 32 bits. -/
def readInt32? (cs : List Char) : Option Int :=
  let (negative, digits) := splitSign cs
  if digits.isEmpty || !digits.all Json.isDigit then none
  else
    let n : Int := Json.digitsValue digits
    let n := if negative then -n else n
    if -2147483648 ≤ n && n < 2147483648 then some n else none

/-- An unsigned decimal number with at most one point and at least one digit. -/
def readDecimal? (cs : List Char) : Option Double :=
  let whole := cs.takeWhile Json.isDigit
  match cs.dropWhile Json.isDigit with
  | [] => if whole.isEmpty then none else some (.ofDecimal (Json.digitsValue whole) 0)
  | '.' :: places =>
    if places.all Json.isDigit && !(whole.isEmpty && places.isEmpty) then
      some (.ofDecimal (Json.digitsValue (whole ++ places)) (-(places.length : Int)))
    else none
  | _ => none

/-- A decimal number with an optional sign. -/
def readNumber? (cs : List Char) : Option Double :=
  let (negative, magnitude) := splitSign cs
  (readDecimal? magnitude).map fun x => if negative then x.neg else x

/-- The suffix that a text is. A lone `E` is a unit; with a whole number behind it, as with `e`, it
is a power of ten. -/
def Suffix.read? (cs : List Char) : Option Suffix :=
  if cs.isEmpty then some .bare
  else
    match units.find? fun u => u.1.toList == cs with
    | some u => some (.unit u.2)
    | none =>
      match cs with
      | 'e' :: digits => (readInt32? digits).map .power
      | 'E' :: digits => (readInt32? digits).map .power
      | _ => none

/-- The characters that the number of a quantity is made of. -/
def isNumberChar (c : Char) : Bool :=
  Json.isDigit c || c = '.' || c = '+' || c = '-'

/-- The value of a quantity, with blanks around it ignored; nothing if it is malformed. -/
def parse? (raw : String) : Option Double := do
  let cs := Text.trim raw.toList
  let number ← readNumber? (cs.takeWhile isNumberChar)
  let suffix ← Suffix.read? (cs.dropWhile isNumberChar)
  return number * suffix.factor

/-- The value of a quantity that may be absent or malformed; it is zero then. -/
def value (raw : Option String) : Double :=
  ((raw.bind parse?).getD .zero)

end FleetDashboard.Quantity
