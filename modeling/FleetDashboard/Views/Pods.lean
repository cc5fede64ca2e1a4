import FleetDashboard.Views.Basic

/-!
# The view of pods

A pod shows its phase, unless its deletion was asked for, its restarts, its node and its images.
-/

namespace FleetDashboard

open Selection (Property Value HasProperties)

/-- A pod in a listing. -/
structure PodItem where
  /-- Its metadata. -/
  summary : ObjectSummary
  /-- Its phase, or that it is going. -/
  status : String
  /-- How often its containers were started again. -/
  restarts : Int
  /-- Its node; empty before it has one. -/
  nodeName : String
  /-- Its images. -/
  images : List String
deriving DecidableEq

namespace PodItem

/-- The status of a pod: a pod that is going is `Terminating`, one without a phase `Unknown`. -/
def statusOf (pod : Pod) : String :=
  if pod.metadata.deleted.isSome then "Terminating" else pod.phase?.getD "Unknown"

/-- The item of a pod. -/
def ofPod (pod : Pod) : PodItem :=
  let spec := pod.spec.getD .empty
  let status := pod.status.getD .empty
  { summary := .ofMetadata pod.metadata
    status := statusOf pod
    restarts := ((status.containerStatuses.getD []).map (·.restartCount)).foldl (· + ·) 0
    nodeName := spec.nodeName.getD ""
    images := Container.images spec.containers }

/-- The properties of a pod. -/
def property? (item : PodItem) : Property → Option Value
  | .status => some (.str item.status)
  | .kind => some (.str ResourceKind.pod.jsonName)
  | .other "restarts" => some (.int (Int64.ofInt item.restarts))
  | .other "node" => some (.str item.nodeName)
  | other => item.summary.property? other

instance : Item PodItem where
  property? := property?
  toJson item :=
    .obj ([("objectMeta", item.summary.toJson), ("typeMeta", kindJson .pod),
        ("status", .str item.status), ("restartCount", .int item.restarts)]
      ++ ObjectSummary.textField "nodeName" item.nodeName
      ++ [("containerImages", .strings item.images)])

/-- How many items have a status. -/
def withStatus (status : String) (items : List PodItem) : Nat :=
  items.countP fun item => item.status == status

/-- Pods by status. -/
def counts (items : List PodItem) : StatusCounts :=
  { running := withStatus "Running" items
    pending := withStatus "Pending" items
    failed := withStatus "Failed" items
    succeeded := withStatus "Succeeded" items
    terminating := withStatus "Terminating" items }

end PodItem

/-- The list of pods. -/
def listPods (request : ListRequest) : Task Call (ViewResult (ListPage PodItem)) :=
  request.single "pods" (fun items => some (PodItem.counts items)) PodItem.ofPod

/-- One pod as it is. -/
def podDetail (lister : Lister) (inNamespace name : String) (scope : Scope) :
    Task Call (ViewResult Pod) :=
  lister.fetchAs inNamespace name scope

end FleetDashboard
