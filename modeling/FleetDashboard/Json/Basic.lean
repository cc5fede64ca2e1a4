import FleetDashboard.Number.Double

/-!
# JSON values

Values with object fields in written order. Whole numbers and doubles are told apart, as in their
written form: a number with a point, an exponent or more than 64 bits is a double.
-/

namespace FleetDashboard

/-- A JSON value. -/
inductive Json where
  | null
  | bool (b : Bool)
  | int (n : Int)
  | double (x : Double)
  | str (s : String)
  | arr (items : List Json)
  | obj (fields : List (String × Json))
deriving Inhabited

namespace Json

/-- The fields of an object; none for any other value. -/
def fields : Json → List (String × Json)
  | .obj fs => fs
  | _ => []

/-- The items of an array; none for any other value. -/
def items : Json → List Json
  | .arr xs => xs
  | _ => []

/-- The first field of the name among `fields`. -/
def lookup (name : String) (fields : List (String × Json)) : Option Json :=
  (fields.find? fun f => f.1 == name).map (·.2)

/-- The value of a field. -/
def get? (j : Json) (name : String) : Option Json :=
  lookup name j.fields

/-- The value of a field that is present and not null. -/
def value? (j : Json) (name : String) : Option Json :=
  match j.get? name with
  | some .null => none
  | v => v

/-- The text, if it is one. -/
def str? : Json → Option String
  | .str s => some s
  | _ => none

/-- The truth value, if it is one. -/
def bool? : Json → Option Bool
  | .bool b => some b
  | _ => none

/-- The whole number, if it is one. -/
def int? : Json → Option Int
  | .int n => some n
  | _ => none

/-- The natural number, if it is one. -/
def nat? : Json → Option Nat
  | .int n => if 0 ≤ n then some n.toNat else none
  | _ => none

/-- The fields of a record: those of an object, or the items of an array in the order of the
record's names, of which the last ones may be missing. -/
def record? (names : List String) : Json → Option (List (String × Json))
  | .obj fields => some fields
  | .arr items => if items.length ≤ names.length then some (names.zip items) else none
  | _ => none

/-- A natural number. -/
def nat (n : Nat) : Json := .int n

/-- A text or null. -/
def ofOption : Option String → Json
  | some s => .str s
  | none => .null

/-- A list of texts. -/
def strings (xs : List String) : Json :=
  .arr (xs.map .str)

/-- The field of this name and value. -/
def field (name : String) (value : Json) : List (String × Json) :=
  [(name, value)]

/-- The field, unless there is no value. -/
def field? (name : String) (value : Option Json) : List (String × Json) :=
  match value with
  | some v => [(name, v)]
  | none => []

end Json

end FleetDashboard
