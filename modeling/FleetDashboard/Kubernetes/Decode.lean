import FleetDashboard.Json.Place
import FleetDashboard.Json.Printer
import FleetDashboard.StableSort
import FleetDashboard.Text.Base64
import FleetDashboard.Text.Pieces
import FleetDashboard.Text.Quoted
import FleetDashboard.Text.Utf8
import FleetDashboard.Time.Rfc3339

/-!
# Reading typed values from JSON

Decoders of the values that objects of API servers are made of. An absent field and a null field are
the same; everything else has to be of the wanted type, and the first value that is not is the flaw.

* `DecodeFlaw`: what is wrong with a value, with the wording of each flaw.
* `DecodeFlaw.left`: where a flaw lies in the text of the value.
* `Decoder`: reads a value of one type; there are decoders of texts, truth values, 32-bit numbers,
  moments, bytes, lists and maps.
* `Decoder.record`: the fields of an object, from which `unlessAbsent` and `needed` read.
-/

namespace FleetDashboard

/-- What is wrong with a value. -/
inductive DecodeFlaw where
  /-- It is of another type than is wanted. -/
  | type (got : Json) (want : String)
  /-- It is of the right type, but not one of the values that are wanted. -/
  | value (got : Json) (want : String)
  /-- It is no base64 text. -/
  | base64 (flaw : Text.Base64.Flaw)
  /-- It is no moment. -/
  | time (flaw : Rfc3339.Flaw)
  /-- A field that is needed is absent. -/
  | missing (name : String)
  /-- The flaw lies where a step leads. -/
  | inside (step : Json.Step) (flaw : DecodeFlaw)

namespace DecodeFlaw

/-- How a value is described. -/
def describe : Json → String
  | .null => "null"
  | .bool b => "boolean " ++ ticked (if b then "true" else "false")
  | .int n => "integer " ++ ticked (toString n)
  | .double x => "floating point " ++ ticked (Json.doubleText x)
  | .str s => "string " ++ Text.quote s
  | .arr _ => "sequence"
  | .obj _ => "map"
where
  /-- A text between grave accents. -/
  ticked (s : String) : String :=
    let tick := String.singleton (Char.ofNat 0x60)
    tick ++ s ++ tick

/-- The wording of a flaw. -/
def message : DecodeFlaw → String
  | .type got want => "invalid type: " ++ describe got ++ ", expected " ++ want
  | .value got want => "invalid value: " ++ describe got ++ ", expected " ++ want
  | .base64 flaw => flaw.message
  | .time flaw => flaw.message
  | .missing name => "missing field " ++ describe.ticked name
  | .inside _ flaw => flaw.message

/-- The text from a flaw on, given the text from the value on in which it lies. -/
def left : DecodeFlaw → List Char → List Char
  | .inside step flaw, cs => if step.isLast then step.follow cs else flaw.left (step.follow cs)
  | .missing _, cs => Json.Step.behind.follow cs
  | _, cs => Json.seat cs

/-- The outcome of a reading whose flaw lies where a step leads. -/
def under {α : Type} (step : Json.Step) (outcome : Except DecodeFlaw α) : Except DecodeFlaw α :=
  outcome.mapError (.inside step)

end DecodeFlaw

/-- Reads a value of one type. -/
abbrev Decoder (α : Type) := Json → Except DecodeFlaw α

/-- The fields of an object. -/
abbrev Fields := List (String × Json)

namespace Decoder

variable {α : Type}

/-! ## Single values -/

/-- A text. -/
def text : Decoder String
  | .str s => .ok s
  | j => .error (.type j "a string")

/-- A truth value. -/
def boolean : Decoder Bool
  | .bool b => .ok b
  | j => .error (.type j "a boolean")

/-- A whole number of 32 bits. -/
def int32 : Decoder Int
  | .int n =>
    if -2147483648 ≤ n && n < 2147483648 then .ok n else .error (.value (.int n) "i32")
  | j => .error (.type j "i32")

/-- A whole number of 64 bits. -/
def int64 : Decoder Int
  | .int n =>
    if -9223372036854775808 ≤ n && n < 9223372036854775808 then .ok n
    else .error (.value (.int n) "i64")
  | j => .error (.type j "i64")

/-- A moment. -/
def moment : Decoder Instant
  | .str s =>
    match Rfc3339.parse s with
    | .ok t => .ok t
    | .error flaw => .error (.time flaw)
  | j => .error (.type j "an RFC 3339 formatted date and time string")

/-- Bytes, written in base64; null stands for none. -/
def bytes : Decoder (List UInt8)
  | .null => .ok []
  | .str s =>
    match Text.Base64.decode (Text.Utf8.encode s) with
    | .ok bytes => .ok bytes
    | .error flaw => .error (.base64 flaw)
  | j => .error (.type j "a base64-encoded string")

/-! ## Lists and maps -/

/-- A list. -/
def list (item : Decoder α) : Decoder (List α)
  | .arr items =>
    items.zipIdx.mapM fun (value, index) => DecodeFlaw.under (.item index) (item value)
  | j => .error (.type j "a sequence")

/-- A list that may be null, which is an empty one. -/
def listOrNull (item : Decoder α) : Decoder (List α)
  | .null => .ok []
  | j => list item j

/-- A map, in order of its keys. -/
def map (item : Decoder α) : Decoder (List (String × α))
  | .obj fields => do
    let entries ← fields.mapM fun (key, value) => do
      return (key, ← DecodeFlaw.under (.field key) (item value))
    return stableSort (fun a b => Text.compare a.1 b.1) entries
  | j => .error (.type j "a map")

/-! ## Objects -/

/-- The fields of an object that is described by a name and of which every field counts. -/
def object (name : String) (read : Fields → Except DecodeFlaw α) : Decoder α
  | .obj fields => read fields
  | j => .error (.type j name)

/-- The fields of an object that is described by a name and of which some fields count. That an
array is none is noticed behind its bracket. -/
def record (name : String) (read : Fields → Except DecodeFlaw α) : Decoder α
  | .arr items => .error (.inside .behindBracket (.type (.arr items) name))
  | j => object name read j

end Decoder

namespace Fields

variable {α : Type}

/-- A field that stands for the given value when it is absent; null does not count as absent. -/
def unlessAbsent (fields : Fields) (name : String) (item : Decoder α) (default : α) :
    Except DecodeFlaw α :=
  match Json.lookup name fields with
  | none => .ok default
  | some value => DecodeFlaw.under (.field name) (item value)

/-- A field that has to be there. -/
def needed (fields : Fields) (name : String) (item : Decoder α) : Except DecodeFlaw α :=
  match Json.lookup name fields with
  | none => .error (.missing name)
  | some value => DecodeFlaw.under (.field name) (item value)

end Fields

end FleetDashboard
