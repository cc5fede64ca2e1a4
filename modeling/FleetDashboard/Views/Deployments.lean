import FleetDashboard.Views.ReplicaSets

/-!
# The view of deployments

A deployment shows the pods of the replica sets that it controls. It runs when as many pods are
available as there are.
-/

namespace FleetDashboard

open Selection (Property Value HasProperties)

/-- A deployment in a listing. -/
structure DeploymentItem where
  /-- Its metadata. -/
  summary : ObjectSummary
  /-- Its pods. -/
  pods : PodCounts
  /-- How many pods are available. -/
  available : Int
  /-- The images of its pods. -/
  images : List String
deriving DecidableEq

namespace DeploymentItem

/-- The unique ids of the replica sets that the object of a unique id controls. -/
def setsOf (uid : Option String) (sets : List ReplicaSet) : List (Option String) :=
  (sets.filter fun set => set.metadata.isControlledBy uid).map (·.metadata.uid)

/-- The pods that some object of the unique ids controls. -/
def podsOfAny (uids : List (Option String)) (pods : List Pod) : List Pod :=
  pods.filter fun pod => uids.any pod.metadata.isControlledBy

/-- The item of a deployment among some replica sets and pods. -/
def ofDeployment (sets : List ReplicaSet) (pods : List Pod) (deployment : Deployment) :
    DeploymentItem :=
  let spec := deployment.spec.getD .empty
  let status := deployment.status.getD .empty
  { summary := .ofMetadata deployment.metadata
    pods := .ofPods (status.replicas.getD 0) (some (spec.replicas.getD 1))
      (podsOfAny (setsOf deployment.metadata.uid sets) pods)
    available := status.availableReplicas.getD 0
    images := spec.template.images }

/-- Whether as many pods are available as there are. -/
def isRunning (item : DeploymentItem) : Bool :=
  item.available == item.pods.current

/-- The properties of a deployment. -/
def property? (item : DeploymentItem) : Property → Option Value
  | .kind => some (.str ResourceKind.deployment.jsonName)
  | .status => some (.str (if item.isRunning then "Running" else "Pending"))
  | other => item.summary.property? other

instance : Item DeploymentItem where
  property? := property?
  toJson item :=
    .obj [("objectMeta", item.summary.toJson), ("typeMeta", kindJson .deployment),
      ("pods", item.pods.toJson), ("availableReplicas", .int item.available),
      ("containerImages", .strings item.images)]

end DeploymentItem

/-- The list of deployments. -/
def listDeployments (request : ListRequest) : Task Call (ViewResult (ListPage DeploymentItem)) :=
  request.gather [.deployment, .replicaSet, .pod] "deployments"
    (fun items => some (.ofRunning DeploymentItem.isRunning items)) fun lists => do
      let deployments ← lists.read
      let sets ← lists.read
      let pods ← lists.read
      return deployments.map (DeploymentItem.ofDeployment sets pods)

end FleetDashboard
