/-!
# Digits

The values of digits and the numbers that they write.
-/

namespace FleetDashboard.Text

/-- The value of a decimal digit. -/
def decimalDigit? (c : Char) : Option Nat :=
  if '0' ≤ c && c ≤ '9' then some (c.toNat - '0'.toNat) else none

/-- The value of a hexadecimal digit, capital or not. -/
def hexDigit? (c : Char) : Option Nat :=
  if '0' ≤ c && c ≤ '9' then some (c.toNat - '0'.toNat)
  else if 'a' ≤ c && c ≤ 'f' then some (c.toNat - 'a'.toNat + 10)
  else if 'A' ≤ c && c ≤ 'F' then some (c.toNat - 'A'.toNat + 10)
  else none

/-- The number that digits write in a base, the first one counting most. -/
def ofDigits (base : Nat) (digits : List Nat) : Nat :=
  digits.foldl (fun n d => n * base + d) 0

/-- The number that a text of decimal digits writes; there has to be one at least. -/
def decimal? (cs : List Char) : Option Nat := do
  let digits ← cs.mapM decimalDigit?
  if digits.isEmpty then none else return ofDigits 10 digits

/-- The number that a text of hexadecimal digits writes; there has to be one at least. -/
def hexadecimal? (cs : List Char) : Option Nat := do
  let digits ← cs.mapM hexDigit?
  if digits.isEmpty then none else return ofDigits 16 digits

end FleetDashboard.Text
