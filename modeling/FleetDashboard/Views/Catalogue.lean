import FleetDashboard.Views.Configuration
import FleetDashboard.Views.CronJobs
import FleetDashboard.Views.Deployments
import FleetDashboard.Views.Pods
import FleetDashboard.Views.ReplicaSets

/-!
# The list views

Every list that can be asked for, by name.

* `ListView`: the lists.
* `ListView.ofName?`: the list of a name.
* `ListView.document`: the page of a list in the form of response bodies.
-/

namespace FleetDashboard

/-- A list that can be asked for. -/
inductive ListView where
  | secrets
  | configMaps
  | cronJobs
  | deployments
  | namespaces
  | pods
  | replicaSets
deriving DecidableEq

namespace ListView

/-- Every list. -/
def all : List ListView :=
  [.secrets, .configMaps, .cronJobs, .deployments, .namespaces, .pods, .replicaSets]

/-- The kind of the objects that are listed. -/
def kind : ListView → ResourceKind
  | .secrets => .secret
  | .configMaps => .configMap
  | .cronJobs => .cronJob
  | .deployments => .deployment
  | .namespaces => .namespace
  | .pods => .pod
  | .replicaSets => .replicaSet

/-- The name by which the list is asked for. -/
def name (view : ListView) : String :=
  view.kind.jsonName

/-- The list of a name. -/
def ofName? (name : String) : Option ListView :=
  all.find? fun view => view.name == name

/-- A page in the form of response bodies. -/
def written {α : Type} [Item α] (page : Task Call (ViewResult (ListPage α))) :
    Task Call (ViewResult Json) := do
  return (← page).map ListPage.toJson

/-- The page that is asked for, in the form of response bodies. -/
def document (view : ListView) (request : ListRequest) : Task Call (ViewResult Json) :=
  match view with
  | .secrets => written (listSecrets request)
  | .configMaps => written (listConfigMaps request)
  | .cronJobs => written (listCronJobs request)
  | .deployments => written (listDeployments request)
  | .namespaces => written (listNamespaces request)
  | .pods => written (listPods request)
  | .replicaSets => written (listReplicaSets request)

end ListView

end FleetDashboard
