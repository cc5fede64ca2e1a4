import FleetDashboard.Text.Pieces
import FleetDashboard.Text.Utf8

/-!
# Percent escapes and forms

Reading percent escapes in paths and the `&`-separated pairs of a form-encoded query. An escape
that is not two hexadecimal digits after the percent sign stands for itself.
-/

namespace FleetDashboard.Text.Percent

/-- The value of a hexadecimal digit. -/
def hexValue? (b : UInt8) : Option UInt8 :=
  if 48 ≤ b && b ≤ 57 then some (b - 48)
  else if 65 ≤ b && b ≤ 70 then some (b - 55)
  else if 97 ≤ b && b ≤ 102 then some (b - 87)
  else none

/-- The bytes with every well-formed escape replaced by the byte it stands for. -/
def decodeBytes : List UInt8 → List UInt8
  | [] => []
  | 37 :: a :: b :: rest =>
    match hexValue? a, hexValue? b with
    | some hi, some lo => (hi * 16 + lo) :: decodeBytes rest
    | _, _ => 37 :: decodeBytes (a :: b :: rest)
  | b :: rest => b :: decodeBytes rest

/-- A path part as text, unless its bytes are not UTF-8. -/
def decode? (part : String) : Option String :=
  (Utf8.decode? (decodeBytes (Utf8.encode part))).map String.ofList

/-- A form name or value as text: `+` is a blank, and ill-formed bytes become U+FFFD. -/
def formText (part : List Char) : String :=
  let blanks := part.map fun c => if c = '+' then ' ' else c
  String.ofList (Utf8.decodeLossy (decodeBytes (Utf8.encode (String.ofList blanks))))

/-- The name and value of one form pair; the value is empty where there is no `=`. -/
def formPair (pair : List Char) : String × String :=
  match splitOnce '=' pair with
  | some (name, value) => (formText name, formText value)
  | none => (formText pair, "")

/-- The pairs of a form-encoded text in order, without the empty ones. -/
def formPairs (query : String) : List (String × String) :=
  ((split '&' query.toList).filter fun pair => !pair.isEmpty).map formPair

end FleetDashboard.Text.Percent
