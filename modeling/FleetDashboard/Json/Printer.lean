import FleetDashboard.Json.Basic
import FleetDashboard.Number.Shortest

/-!
# Writing JSON

The compact text of a value: no blanks, fields in order, doubles with the fewest digits that read
back, of two such decimals equally near the even one, and always with a point or an exponent.
-/

namespace FleetDashboard.Json

/-- How one character stands inside a JSON string. -/
def escapeChar (c : Char) : List Char :=
  if c = '"' then ['\\', '"']
  else if c = '\\' then ['\\', '\\']
  else if c = '\n' then ['\\', 'n']
  else if c = '\r' then ['\\', 'r']
  else if c = '\t' then ['\\', 't']
  else if c = '\x08' then ['\\', 'b']
  else if c = '\x0c' then ['\\', 'f']
  else if c.toNat < 0x20 then
    ['\\', 'u', '0', '0', Nat.digitChar (c.toNat / 16), Nat.digitChar (c.toNat % 16)]
  else [c]

/-- A JSON string with its quotes. -/
def stringText (s : String) : String :=
  String.ofList ('"' :: s.toList.flatMap escapeChar ++ ['"'])

/-- The decimal point goes inside the digits when the number has between one and sixteen places
before it, or at most four zeros behind it; else the number is written with an exponent that carries
its sign. -/
def magnitudeText (d : Number.Decimal) : String :=
  let all := Nat.toDigits 10 d.digits
  let kept := (all.reverse.dropWhile (· == '0')).reverse
  let point : Int := d.exponent + (all.length : Int)
  if 0 < point && point ≤ 16 then
    if (kept.length : Int) ≤ point then
      String.ofList (kept ++ List.replicate (point.toNat - kept.length) '0') ++ ".0"
    else String.ofList (kept.take point.toNat ++ '.' :: kept.drop point.toNat)
  else if -5 < point && point ≤ 0 then
    "0." ++ String.ofList (List.replicate (-point).toNat '0' ++ kept)
  else
    let lead := String.ofList (kept.take 1)
    let rest := kept.drop 1
    let body := if rest.isEmpty then lead else lead ++ "." ++ String.ofList rest
    body ++ (if 0 < point then "e+" else "e-") ++ toString (point - 1).natAbs

/-- The text of a double; null if it is not finite. -/
def doubleText (x : Double) : String :=
  if !x.isFinite then "null"
  else
    let sign := if x.isNegative then "-" else ""
    if x.exponentField = 0 && x.fractionField = 0 then sign ++ "0.0"
    else
      sign ++ magnitudeText
        ((Number.Rounding.ofFields x.exponentField x.fractionField).shortest .toEven)

mutual

/-- The compact text of a value. -/
def compact : Json → String
  | .null => "null"
  | .bool b => if b then "true" else "false"
  | .int n => toString n
  | .double x => doubleText x
  | .str s => stringText s
  | .arr xs => "[" ++ compactItems xs ++ "]"
  | .obj fs => "\x7b" ++ compactFields fs ++ "\x7d"

/-- The items of an array with commas between them. -/
def compactItems : List Json → String
  | [] => ""
  | [x] => compact x
  | x :: y :: rest => compact x ++ "," ++ compactItems (y :: rest)

/-- The fields of an object with commas between them. -/
def compactFields : List (String × Json) → String
  | [] => ""
  | [(k, v)] => stringText k ++ ":" ++ compact v
  | (k, v) :: f :: rest => stringText k ++ ":" ++ compact v ++ "," ++ compactFields (f :: rest)

end

end FleetDashboard.Json
