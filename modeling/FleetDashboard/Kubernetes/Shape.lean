import FleetDashboard.Kubernetes.Decode

/-!
# Shapes of values

The objects of API servers are made of records with many fields, of which only a few are shown. All
of them are read: an object of which a field has the wrong type is refused, whether the field is
shown or not. Fields that a record does not have are passed over, and a null field is an absent one.

* `Shape`: a type of values, which are read into their written form.
* `Shape.record`: the type of records with some fields; `Member.read` reads the fields in the order
  in which they come, so that the first one with a flaw decides.
* `Fields.shown?`, `Fields.record?`, `Fields.records`, `Fields.written`: what is picked out of the
  fields of a value of the right type.
-/

namespace FleetDashboard

/-- A type of values, as far as reading and writing them goes. -/
structure Shape where
  /-- Reads a value of the type, and gives its written form. -/
  read : Decoder Json
  /-- The written form of the value that stands for an absent one. -/
  blank : Json

/-- A field that a record has. -/
structure Member where
  /-- Its name. -/
  name : String
  /-- Whether it is written even if it is absent. -/
  isNeeded : Bool
  /-- The type of its value. -/
  shape : Shape

namespace Member

/-- A field that is left out if it is absent. -/
def may (name : String) (shape : Shape) : Member :=
  { name, isNeeded := false, shape }

/-- A field that is blank if it is absent. -/
def must (name : String) (shape : Shape) : Member :=
  { name, isNeeded := true, shape }

/-- The fields that a record has, with their values, in the order in which they come. -/
def present (members : List Member) (fields : Fields) : List (Member × Json) :=
  fields.filterMap fun (name, value) =>
    match value with
    | .null => none
    | _ => (members.find? fun member => member.name == name).map fun member => (member, value)

/-- The written form of a record of which some fields are given in theirs. -/
def written (members : List Member) (given : Fields) : Fields :=
  members.filterMap fun member =>
    match Json.lookup member.name given with
    | some value => some (member.name, value)
    | none => if member.isNeeded then some (member.name, member.shape.blank) else none

/-- Reads the fields that a record has, and gives them in their written form. -/
def read (members : List Member) (fields : Fields) : Except DecodeFlaw Fields := do
  let given ← (present members fields).mapM fun (member, value) => do
    return (member.name, ← DecodeFlaw.under (.field member.name) (member.shape.read value))
  return written members given

end Member

namespace Shape

/-! ## Single values -/

/-- Texts. -/
def text : Shape where
  read j := return .str (← Decoder.text j)
  blank := .str ""

/-- Truth values. -/
def boolean : Shape where
  read j := return .bool (← Decoder.boolean j)
  blank := .bool false

/-- Whole numbers of 32 bits. -/
def int32 : Shape where
  read j := return .int (← Decoder.int32 j)
  blank := .int 0

/-- Whole numbers of 64 bits. -/
def int64 : Shape where
  read j := return .int (← Decoder.int64 j)
  blank := .int 0

/-- Moments, which are written in whole seconds. -/
def moment : Shape where
  read j := return .str (← Decoder.moment j).wholeSecond.text
  blank := .null

/-- Bytes. A base64 text that stands for bytes is the only one that does. -/
def bytes : Shape where
  read j := do
    discard (Decoder.bytes j)
    return .str (j.str?.getD "")
  blank := .str ""

/-- Quantities, which are not looked into. -/
def quantity : Shape := text

/-- Whole numbers of 32 bits or texts. -/
def int32OrText : Shape where
  read
    | .str s => .ok (.str s)
    | .int n =>
      if -2147483648 ≤ n && n < 2147483648 then .ok (.int n)
      else .error (.value (.int n) "a 32-bit integer")
    | j => .error (.type j "enum IntOrString")
  blank := .int 0

/-- Values of any type. -/
def any : Shape where
  read j := .ok j
  blank := .null

/-! ## Values made of others -/

/-- Lists. -/
def list (item : Shape) : Shape where
  read j := return .arr (← Decoder.list item.read j)
  blank := .arr []

/-- Maps. -/
def map (item : Shape) : Shape where
  read j := return .obj (← Decoder.map item.read j)
  blank := .obj []

/-- Records of a name, with all the fields that they have. -/
def record (name : String) (members : List Member) : Shape where
  read := Decoder.record name fun fields => return .obj (← Member.read members fields)
  blank := .obj (Member.written members [])

/-- Lists of texts. -/
def texts : Shape := list text

/-- Maps of texts. -/
def textMap : Shape := map text

/-- Maps of quantities. -/
def quantities : Shape := map quantity

end Shape

/-! ## What is shown -/

namespace Fields

variable {α : Type}

/-- The value of a field, if there is one. -/
def shown? (fields : Fields) (name : String) (item : Decoder α) : Option α :=
  (Json.lookup name fields).bind fun value => (item value).toOption

/-- The fields of the record in a field, if there is one. -/
def record? (fields : Fields) (name : String) : Option Fields :=
  match Json.lookup name fields with
  | some (.obj inner) => some inner
  | _ => none

/-- The fields of the records in the list in a field, if there is one. -/
def records? (fields : Fields) (name : String) : Option (List Fields) :=
  match Json.lookup name fields with
  | some (.arr items) => some (items.map Json.fields)
  | _ => none

/-- The written form of the fields that a record has. -/
def written (fields : Fields) (members : List Member) : Fields :=
  (Member.read members fields).toOption.getD []

end Fields

end FleetDashboard
