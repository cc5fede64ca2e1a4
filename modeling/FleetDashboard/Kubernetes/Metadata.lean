import FleetDashboard.Kubernetes.Shape

/-!
# Metadata of objects

What every object carries: names, labels, owners and times. What is not shown is kept in its written
form, so that metadata can be written again.
-/

namespace FleetDashboard

/-! ## Shapes -/

namespace Shape

open Member (may must)

/-- Objects that another object belongs to. -/
def ownerReference : Shape :=
  record "OwnerReference" [
    must "apiVersion" text, may "blockOwnerDeletion" boolean, may "controller" boolean,
    must "kind" text, must "name" text, must "uid" text]

/-- Which fields someone looks after. -/
def managedFieldsEntry : Shape :=
  record "ManagedFieldsEntry" [
    may "apiVersion" text, may "fieldsType" text, may "fieldsV1" any, may "manager" text,
    may "operation" text, may "subresource" text, may "time" moment]

/-- The fields of metadata that are looked into. -/
def shownMetadata : List Member := [
  may "annotations" textMap, may "creationTimestamp" moment, may "deletionTimestamp" moment,
  may "labels" textMap, may "name" text, may "namespace" text,
  may "ownerReferences" (list ownerReference), may "resourceVersion" text, may "uid" text]

/-- The fields of metadata that are only kept. -/
def keptMetadata : List Member := [
  may "deletionGracePeriodSeconds" int64, may "finalizers" texts, may "generateName" text,
  may "generation" int64, may "managedFields" (list managedFieldsEntry), may "selfLink" text]

/-- Metadata. -/
def objectMeta : Shape :=
  record "ObjectMeta" (shownMetadata ++ keptMetadata)

end Shape

/-! ## Owners -/

/-- An object that another object belongs to. -/
structure OwnerReference where
  /-- Group and version of the owner. -/
  apiVersion : String
  /-- Whether the owner cannot go before the object. -/
  blocksDeletion : Option Bool
  /-- Whether the owner manages the object. -/
  controller : Option Bool
  /-- The kind of the owner. -/
  kind : String
  /-- The name of the owner. -/
  name : String
  /-- The unique id of the owner. -/
  uid : String
deriving DecidableEq

namespace OwnerReference

/-- The reference that is made of some fields. -/
def ofFields (fields : Fields) : OwnerReference :=
  { apiVersion := (fields.shown? "apiVersion" Decoder.text).getD ""
    blocksDeletion := fields.shown? "blockOwnerDeletion" Decoder.boolean
    controller := fields.shown? "controller" Decoder.boolean
    kind := (fields.shown? "kind" Decoder.text).getD ""
    name := (fields.shown? "name" Decoder.text).getD ""
    uid := (fields.shown? "uid" Decoder.text).getD "" }

/-- The written form of a reference. -/
def toJson (owner : OwnerReference) : Json :=
  .obj ([("apiVersion", .str owner.apiVersion)]
    ++ Json.field? "blockOwnerDeletion" (owner.blocksDeletion.map Json.bool)
    ++ Json.field? "controller" (owner.controller.map Json.bool)
    ++ [("kind", .str owner.kind), ("name", .str owner.name), ("uid", .str owner.uid)])

end OwnerReference

/-! ## Metadata -/

/-- What an object carries besides its own content. -/
structure Metadata where
  /-- Its name. -/
  name : Option String
  /-- Its namespace. -/
  inNamespace : Option String
  /-- Its unique id. -/
  uid : Option String
  /-- Its labels, in order of the keys. -/
  labels : Option (List (String × String))
  /-- Its annotations, in order of the keys. -/
  annotations : Option (List (String × String))
  /-- When it was created. -/
  created : Option Instant
  /-- When its deletion was asked for. -/
  deleted : Option Instant
  /-- Its version on the server. -/
  resourceVersion : Option String
  /-- The objects that it belongs to. -/
  owners : Option (List OwnerReference)
  /-- What is only kept, in its written form. -/
  kept : Fields

namespace Metadata

/-- No metadata. -/
def empty : Metadata :=
  { name := none, inNamespace := none, uid := none, labels := none, annotations := none,
    created := none, deleted := none, resourceVersion := none, owners := none, kept := [] }

/-- The metadata that is made of some fields. -/
def ofFields (fields : Fields) : Metadata :=
  { name := fields.shown? "name" Decoder.text
    inNamespace := fields.shown? "namespace" Decoder.text
    uid := fields.shown? "uid" Decoder.text
    labels := fields.shown? "labels" (Decoder.map Decoder.text)
    annotations := fields.shown? "annotations" (Decoder.map Decoder.text)
    created := fields.shown? "creationTimestamp" Decoder.moment
    deleted := fields.shown? "deletionTimestamp" Decoder.moment
    resourceVersion := fields.shown? "resourceVersion" Decoder.text
    owners := (fields.records? "ownerReferences").map (List.map OwnerReference.ofFields)
    kept := fields.written Shape.keptMetadata }

/-- Reads metadata, of which every field has to be of the right type. -/
def decode : Decoder Metadata := fun j => do
  discard (Shape.objectMeta.read j)
  return ofFields j.fields

/-- The metadata with its times cut to whole seconds. -/
def wholeSeconds (metadata : Metadata) : Metadata :=
  { metadata with
    created := metadata.created.map Instant.wholeSecond
    deleted := metadata.deleted.map Instant.wholeSecond }

/-- A map of texts. -/
def mapJson (entries : List (String × String)) : Json :=
  .obj (entries.map fun (key, value) => (key, .str value))

/-- The written form of metadata, in order of the names; what is absent is left out. -/
def toJson (metadata : Metadata) : Json :=
  .obj <| Json.sortFields <|
    Json.field? "annotations" (metadata.annotations.map mapJson)
    ++ Json.field? "creationTimestamp" (metadata.created.map fun t => .str t.text)
    ++ Json.field? "deletionTimestamp" (metadata.deleted.map fun t => .str t.text)
    ++ Json.field? "labels" (metadata.labels.map mapJson)
    ++ Json.field? "name" (metadata.name.map Json.str)
    ++ Json.field? "namespace" (metadata.inNamespace.map Json.str)
    ++ Json.field? "ownerReferences"
      (metadata.owners.map fun owners => .arr (owners.map OwnerReference.toJson))
    ++ Json.field? "resourceVersion" (metadata.resourceVersion.map Json.str)
    ++ Json.field? "uid" (metadata.uid.map Json.str)
    ++ metadata.kept

/-- Whether the object is managed by the object of the given unique id, if there is one. -/
def isControlledBy (metadata : Metadata) (uid : Option String) : Bool :=
  match uid with
  | none => false
  | some uid =>
    (metadata.owners.getD []).any fun owner => owner.controller == some true && owner.uid == uid

end Metadata

end FleetDashboard
