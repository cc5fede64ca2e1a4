import FleetDashboard.Kubernetes.Object
import FleetDashboard.Kubernetes.PodShape

/-!
# Namespaces, secrets and config maps

The objects that hold names and values, as far as they are shown. The content of a secret is read,
so that a malformed one is noticed, and never shown.
-/

namespace FleetDashboard

/-! ## Namespaces -/

namespace Shape

open Member (may)

/-- What a namespace asks for. -/
def namespaceSpec : Shape :=
  record "NamespaceSpec" [may "finalizers" texts]

/-- How a namespace fares. -/
def namespaceStatus : Shape :=
  record "NamespaceStatus" [
    may "conditions" (list (condition "NamespaceCondition" ["lastTransitionTime"])),
    may "phase" text]

end Shape

/-- How a namespace fares. -/
structure NamespaceStatus where
  /-- Its phase. -/
  phase : Option String
deriving DecidableEq

/-- How a namespace fares by some fields. -/
def NamespaceStatus.ofFields (fields : Fields) : NamespaceStatus :=
  { phase := fields.shown? "phase" Decoder.text }

/-- A namespace. -/
structure NamespaceObject where
  /-- Its metadata. -/
  metadata : Metadata
  /-- How it fares. -/
  status : Option NamespaceStatus

instance : Resource NamespaceObject where
  kind := .namespace
  members := [.may "spec" Shape.namespaceSpec, .may "status" Shape.namespaceStatus]
  ofParts metadata fields :=
    { metadata, status := (fields.record? "status").map NamespaceStatus.ofFields }

/-! ## Secrets and config maps -/

/-- A secret. -/
structure Secret where
  /-- Its metadata. -/
  metadata : Metadata
  /-- Its type. -/
  secretType : Option String
  /-- Its content as bytes, in order of the keys. -/
  data : Option (List (String × List UInt8))
  /-- Its content as texts, in order of the keys. -/
  stringData : Option (List (String × String))

instance : Resource Secret where
  kind := .secret
  members := [
    .may "data" (Shape.map Shape.bytes), .may "immutable" Shape.boolean,
    .may "stringData" Shape.textMap, .may "type" Shape.text]
  ofParts metadata fields :=
    { metadata
      secretType := fields.shown? "type" Decoder.text
      data := fields.shown? "data" (Decoder.map Decoder.bytes)
      stringData := fields.shown? "stringData" (Decoder.map Decoder.text) }

/-- A config map. -/
structure ConfigMap where
  /-- Its metadata. -/
  metadata : Metadata
  /-- Its content as texts, in order of the keys. -/
  data : Option (List (String × String))
  /-- Its content as bytes, in order of the keys. -/
  binaryData : Option (List (String × List UInt8))

instance : Resource ConfigMap where
  kind := .configMap
  members := [
    .may "binaryData" (Shape.map Shape.bytes), .may "data" Shape.textMap,
    .may "immutable" Shape.boolean]
  ofParts metadata fields :=
    { metadata
      data := fields.shown? "data" (Decoder.map Decoder.text)
      binaryData := fields.shown? "binaryData" (Decoder.map Decoder.bytes) }

end FleetDashboard
