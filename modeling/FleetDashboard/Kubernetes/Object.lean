import FleetDashboard.Kubernetes.Metadata
import FleetDashboard.ResourceKind

/-!
# Objects of any kind

An object as a listing brings it: its metadata, and the rest as it was written, with the fields in
order of their names. The objects of one kind are read from it when a view needs them. Every field
of theirs is read then, in that order; what is shown is picked out of an object that was read.

* `ApiObject`: an object of any kind.
* `Resource`: a type whose values are the objects of one kind.
* `TypeFields`: the fields that say what an object is, as far as an object of any kind keeps them.
* `TypeFields.scan`: whether all fields of an object are of the right types.
* `ApiObject.read`: the object as a value of that type. Kind and version are compared when the
  object keeps them.
* `readDirect`: the same for an object that was asked for by its type, whose kind and version are
  always compared and whose times keep their fractions.
-/

namespace FleetDashboard

/-! ## Kind and version -/

namespace TypeFields

/-- The names of the fields that say what an object is, in the order in which they are compared. -/
def names : List String := ["apiVersion", "kind"]

/-- The fields that say what an object is, in the order in which they are written. -/
def written (fields : Fields) : Fields :=
  fields.filter fun (name, _) => names.contains name

/-- Whether a value is a text. -/
def isText : Json → Bool
  | .str _ => true
  | _ => false

/-- The fields about the type that an object of any kind keeps. Texts in both are kept. Otherwise
the fields are gone through as they are written, up to the first that is no text, and only what
stands behind that one is kept. -/
def kept (fields : Fields) : Fields :=
  let own := written fields
  match own.dropWhile fun (_, value) => isText value with
  | _ :: rest => rest
  | [] =>
    if own.length < names.length then []
    else names.flatMap fun name => own.filter fun (other, _) => other == name

/-- What a field about the type has to be. -/
def wanted (apiVersion kind name : String) : String :=
  if name = "apiVersion" then apiVersion else kind

/-- Compares a field about the type with the wanted version and kind. -/
def check (apiVersion kind name : String) (value : Json) : Except DecodeFlaw Unit := do
  let given ← DecodeFlaw.under (.field name) (Decoder.text value)
  if given ≠ wanted apiVersion kind name then
    throw (.inside (.behindField name) (.value (.str given) (wanted apiVersion kind name)))

/-- Reads a field of an object. One about its type has to be the wanted one, and another that it has
of the right type. -/
def scanField (apiVersion kind : String) (members : List Member) (field : String × Json) :
    Except DecodeFlaw Unit :=
  if field.1 ∈ names then check apiVersion kind field.1 field.2
  else discard (Member.read members [field])

/-- Goes through the fields of an object in the order in which they come. -/
def scan (apiVersion kind : String) (members : List Member) (fields : Fields) :
    Except DecodeFlaw Unit :=
  fields.forM (scanField apiVersion kind members)

end TypeFields

/-! ## Objects -/

/-- An object of any kind. -/
structure ApiObject where
  /-- The fields about its type that it keeps. -/
  typeFields : Fields
  /-- Its metadata. -/
  metadata : Metadata
  /-- All its fields, in order of their names. -/
  content : Fields

namespace ApiObject

/-- Reads an object. -/
def decode : Decoder ApiObject :=
  Decoder.object "struct DynamicObject" fun fields => do
    return {
      typeFields := TypeFields.kept fields
      metadata := ← fields.unlessAbsent "metadata" Metadata.decode Metadata.empty
      content := (Json.obj fields).sorted.fields }

/-- The name; empty if there is none. -/
def name (object : ApiObject) : String :=
  object.metadata.name.getD ""

/-- The fields that are read when the object is read as a value of a type: those about its type that
it keeps among the others. -/
def fields (object : ApiObject) : Fields :=
  Json.sortFields (object.typeFields
    ++ object.content.filter fun field => field.1 ∉ TypeFields.names)

end ApiObject

/-- The objects of one kind are the values of the type. -/
class Resource (α : Type) where
  /-- The kind. -/
  kind : ResourceKind
  /-- The fields that its objects have besides their metadata and those about their type. -/
  members : List Member
  /-- The object of some metadata and fields of the right types. -/
  ofParts : Metadata → Fields → α

/-- Why an object could not be read. -/
structure ReadFailure where
  /-- The kind that was wanted. -/
  kind : ResourceKind
  /-- The flaw. -/
  flaw : DecodeFlaw

/-- The wording of a failure. -/
def ReadFailure.reason (failure : ReadFailure) : String :=
  failure.flaw.message

variable {α : Type}

/-- The object as a value of its own type. The times of its metadata are cut to whole seconds. -/
def ApiObject.read [Resource α] (object : ApiObject) : Except ReadFailure α :=
  let kind := Resource.kind α
  let result := do
    TypeFields.scan kind.apiVersion kind.name (Resource.members α) object.fields
    return Resource.ofParts object.metadata.wholeSeconds object.content
  result.mapError fun flaw => { kind, flaw }

/-- Every object of a list as a value of its own type; the first failure decides. -/
def readAll [Resource α] (objects : List ApiObject) : Except ReadFailure (List α) :=
  objects.mapM ApiObject.read

/-- The field that holds the metadata of an object. -/
def Member.metadata : Member :=
  .may "metadata" Shape.objectMeta

/-- An object that was asked for by its type. All its fields are read as they are written. -/
def readDirect [Resource α] : Decoder α :=
  let kind := Resource.kind α
  Decoder.record kind.name fun fields => do
    TypeFields.scan kind.apiVersion kind.name (.metadata :: Resource.members α) fields
    let metadata := ((fields.record? "metadata").map Metadata.ofFields).getD .empty
    return Resource.ofParts metadata fields

end FleetDashboard
