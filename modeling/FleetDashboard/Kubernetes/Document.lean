import FleetDashboard.Kubernetes.Decode

/-!
# Reading typed values from texts

A text is read as a JSON value and the value as one of a type. The first flaw from left to right
decides, as far as that can be told: a text that shows by its first character that its value is of
another type is not read any further.

* `DocumentFlaw`: what is wrong with a text, and where.
* `Decoder.ofText`: the value of a type that a text holds.
-/

namespace FleetDashboard

/-- What is wrong with a text, and where. -/
structure DocumentFlaw where
  /-- What is wrong. -/
  reason : String
  /-- Where it was noticed. -/
  place : Json.Place
deriving DecidableEq

namespace DocumentFlaw

/-- The wording of a flaw. -/
def message (flaw : DocumentFlaw) : String :=
  flaw.reason ++ flaw.place.text

/-- A text that is no JSON. -/
def ofMishap (text : List Char) (mishap : Json.Mishap) : DocumentFlaw :=
  { reason := mishap.flaw.message, place := .before text mishap.rest mishap.width }

/-- A text whose value is not of the type. -/
def ofDecodeFlaw (text : List Char) (flaw : DecodeFlaw) : DocumentFlaw :=
  { reason := flaw.message, place := .before text (flaw.left text) 0 }

end DocumentFlaw

namespace Decoder

variable {α : Type}

/-- The flaw that the first character of a text shows: an array is wanted nowhere at the top. -/
def early? (decode : Decoder α) (text : List Char) : Option DecodeFlaw :=
  match Json.skipBlanks text with
  | '[' :: _ =>
    match decode (.arr []) with
    | .error flaw => some flaw
    | .ok _ => none
  | _ => none

/-- The value of a type that a text holds. -/
def ofText (decode : Decoder α) (source : String) : Except DocumentFlaw α :=
  let text := source.toList
  match Json.read text with
  | .error mishap =>
    match early? decode text with
    | some flaw => .error (.ofDecodeFlaw text flaw)
    | none => .error (.ofMishap text mishap)
  | .ok (value, rest) =>
    match decode value.merged with
    | .error flaw => .error (.ofDecodeFlaw text flaw)
    | .ok result =>
      match Json.skipBlanks rest with
      | [] => .ok result
      | rest => .error (.ofMishap text (.next .trailing rest))

end Decoder

end FleetDashboard
