import FleetDashboard.Kubernetes.Configuration
import FleetDashboard.Views.Basic

/-!
# The views of namespaces, secrets and config maps

A namespace shows its phase and whether resources are kept from being spread into it, a secret its
type and nothing of its content, a config map how many entries it has.
-/

namespace FleetDashboard

open Selection (Property Value HasProperties)

/-! ## Namespaces -/

/-- A namespace in a listing. -/
structure NamespaceItem where
  /-- Its metadata. -/
  summary : ObjectSummary
  /-- Its phase. -/
  phase : String
  /-- Whether resources are kept from being spread into it. -/
  skipsPropagation : Bool
deriving DecidableEq

namespace NamespaceItem

/-- The label that keeps resources from being spread into a namespace. -/
def skipLabel : String := "namespace.karmada.io/skip-auto-propagation"

/-- The item of a namespace; without a phase it is active. -/
def ofNamespace (object : NamespaceObject) : NamespaceItem :=
  let summary := ObjectSummary.ofMetadata object.metadata
  { summary
    phase := (object.status.bind (·.phase)).getD "Active"
    skipsPropagation := summary.label? skipLabel == some "true" }

/-- The properties of a namespace. -/
def property? (item : NamespaceItem) : Property → Option Value
  | .status => some (.str item.phase)
  | .kind => some (.str ResourceKind.namespace.jsonName)
  | other => item.summary.property? other

instance : Item NamespaceItem where
  property? := property?
  toJson item :=
    .obj [("objectMeta", item.summary.toJson), ("typeMeta", kindJson .namespace),
      ("phase", .str item.phase), ("skipAutoPropagation", .bool item.skipsPropagation)]

end NamespaceItem

/-- The list of namespaces. -/
def listNamespaces (request : ListRequest) : Task Call (ViewResult (ListPage NamespaceItem)) :=
  request.single "namespaces" (fun _ => none) NamespaceItem.ofNamespace

/-! ## Secrets -/

/-- A secret in a listing. -/
structure SecretItem where
  /-- Its metadata. -/
  summary : ObjectSummary
  /-- Its type. -/
  secretType : String
deriving DecidableEq

namespace SecretItem

/-- The item of a secret. -/
def ofSecret (secret : Secret) : SecretItem :=
  { summary := .ofMetadata secret.metadata, secretType := secret.secretType.getD "" }

/-- The properties of a secret. -/
def property? (item : SecretItem) : Property → Option Value
  | .typeName => some (.str item.secretType)
  | .kind => some (.str ResourceKind.secret.jsonName)
  | other => item.summary.property? other

instance : Item SecretItem where
  property? := property?
  toJson item :=
    .obj [("objectMeta", item.summary.toJson), ("typeMeta", kindJson .secret),
      ("type", .str item.secretType)]

end SecretItem

/-- The list of secrets. -/
def listSecrets (request : ListRequest) : Task Call (ViewResult (ListPage SecretItem)) :=
  request.single "secrets" (fun _ => none) SecretItem.ofSecret

/-! ## Config maps -/

/-- A config map in a listing. -/
structure ConfigMapItem where
  /-- Its metadata. -/
  summary : ObjectSummary
  /-- How many entries it has. -/
  entries : Nat
deriving DecidableEq

namespace ConfigMapItem

/-- The item of a config map. -/
def ofConfigMap (configMap : ConfigMap) : ConfigMapItem :=
  { summary := .ofMetadata configMap.metadata
    entries := (configMap.data.getD []).length + (configMap.binaryData.getD []).length }

/-- The properties of a config map. -/
def property? (item : ConfigMapItem) : Property → Option Value
  | .kind => some (.str ResourceKind.configMap.jsonName)
  | other => item.summary.property? other

instance : Item ConfigMapItem where
  property? := property?
  toJson item :=
    .obj [("objectMeta", item.summary.toJson), ("typeMeta", kindJson .configMap),
      ("keys", .nat item.entries)]

end ConfigMapItem

/-- The list of config maps. -/
def listConfigMaps (request : ListRequest) : Task Call (ViewResult (ListPage ConfigMapItem)) :=
  request.single "items" (fun _ => none) ConfigMapItem.ofConfigMap

end FleetDashboard
