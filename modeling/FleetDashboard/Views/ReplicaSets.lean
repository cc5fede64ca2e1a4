import FleetDashboard.Kubernetes.Workload
import FleetDashboard.Views.Basic

/-!
# The view of replica sets

A replica set shows the pods that it controls by phase.
-/

namespace FleetDashboard

open Selection (Property Value HasProperties)

/-- The pods that the object of a unique id controls. -/
def podsOf (uid : Option String) (pods : List Pod) : List Pod :=
  pods.filter fun pod => pod.metadata.isControlledBy uid

/-- A replica set in a listing. -/
structure ReplicaSetItem where
  /-- Its metadata. -/
  summary : ObjectSummary
  /-- Its pods. -/
  pods : PodCounts
  /-- The images of its pods. -/
  images : List String
deriving DecidableEq

namespace ReplicaSetItem

/-- The item of a replica set among some pods. -/
def ofReplicaSet (pods : List Pod) (set : ReplicaSet) : ReplicaSetItem :=
  { summary := .ofMetadata set.metadata
    pods := .ofPods ((set.status.map (·.replicas)).getD 0) (set.spec.bind (·.replicas))
      (podsOf set.metadata.uid pods)
    images := (((set.spec.bind (·.template)).map PodTemplate.images)).getD [] }

/-- The properties of a replica set. -/
def property? (item : ReplicaSetItem) : Property → Option Value
  | .kind => some (.str ResourceKind.replicaSet.jsonName)
  | .other "replicas" => some (.int (Int64.ofInt item.pods.current))
  | other => item.summary.property? other

instance : Item ReplicaSetItem where
  property? := property?
  toJson item :=
    .obj [("objectMeta", item.summary.toJson), ("typeMeta", kindJson .replicaSet),
      ("pods", item.pods.toJson), ("containerImages", .strings item.images)]

end ReplicaSetItem

/-- The list of replica sets. -/
def listReplicaSets (request : ListRequest) : Task Call (ViewResult (ListPage ReplicaSetItem)) :=
  request.gather [.replicaSet, .pod] "replicaSets" (fun _ => none) fun lists => do
    let sets ← lists.read
    let pods ← lists.read
    return sets.map (ReplicaSetItem.ofReplicaSet pods)

/-- One replica set, and then the pods in its namespace. -/
def replicaSetDetail (lister : Lister) (inNamespace name : String) (scope : Scope) :
    Task Call (ViewResult ReplicaSetItem) := do
  match ← lister.fetchAs (ρ := ReplicaSet) inNamespace name scope with
  | .error error => return .error error
  | .ok set =>
    let gathered ← lister.gather [.pod] (.parse (some inNamespace)) scope
    return do
      let lists ← gathered.drain.mapError ResourceError.server
      let pods ← lists.read
      return ReplicaSetItem.ofReplicaSet pods set

end FleetDashboard
