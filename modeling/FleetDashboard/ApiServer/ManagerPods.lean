import FleetDashboard.ApiServer.Objects
import FleetDashboard.Kubernetes.Pod
import FleetDashboard.Overview.ControllerManager

/-!
# The pods of the controller manager

The version of the controller manager is told by the program itself, run in one of its pods: the
first one that runs, or else the first one. Its deployment stands in the same namespace.

* `ManagerPods.choose?`: the pod in which the program is run.
* `ApiClient.managerSource`: what the API server tells of the controller manager.
-/

namespace FleetDashboard

namespace ManagerPods

/-- The namespace of the controller manager. -/
def inNamespace : String := "karmada-system"

/-- The name of the deployment, of its container and of the program. -/
def managerName : String := "karmada-controller-manager"

/-- The phase of a pod that runs. -/
def runningPhase : String := "Running"

/-- The pod in which the program is run. -/
def choose? (pods : List Pod) : Option Pod :=
  (pods.find? fun pod => pod.phase? == some runningPhase) <|> pods.head?

/-- The failure when there is no pod. -/
def noPod : ServerFailure :=
  .plain .notFound ("no pod found for " ++ managerName)

/-- The path of a pod's commands. -/
def commandPath (pod : Pod) : Except CallFault String := do
  let path ← ResourcePath.member (ResourcePath.ofKind .pod (some inNamespace))
    (pod.metadata.name.getD "")
  return path ++ "/exec"

end ManagerPods

namespace ApiClient

open ManagerPods

/-- The pods of the controller manager. -/
def managerPods (client : ApiClient) (transport : Transport) : Except CallFault (List Pod) := do
  let path := ResourcePath.ofKind .pod (some ManagerPods.inNamespace)
  let request ← client.request readMethod path none
  transport.fetch request (itemsOf readDirect)

/-- What the program writes about its version. -/
def managerVersion (client : ApiClient) (transport : Transport) : Except ServerFailure String := do
  let pods ← (client.managerPods transport).mapError CallFault.toFailure
  match choose? pods with
  | none => .error noPod
  | some pod =>
    let request := do client.request readMethod (← commandPath pod) none
    transport.exec (← request.mapError CallFault.toFailure)

/-- The deployment of the controller manager. -/
def managerDeployment (client : ApiClient) (transport : Transport) :
    Except CallFault Deployment := do
  let request ← client.getRequest .deployment (some ManagerPods.inNamespace) managerName
  transport.fetch request readDirect

/-- What the API server tells of the controller manager. -/
def managerSource (client : ApiClient) (transport : Transport) : ManagerSource where
  versionOutput := .done (client.managerVersion transport)
  deployment := .done ((client.managerDeployment transport).mapError CallFault.toFailure)

end ApiClient

end FleetDashboard
