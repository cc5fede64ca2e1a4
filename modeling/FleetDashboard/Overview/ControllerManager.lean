import FleetDashboard.Kubernetes.Workload
import FleetDashboard.Overview.Version
import FleetDashboard.ResourceError
import FleetDashboard.Time.Wait

/-!
# The controller manager in the overview

The version of the controller manager, whether it runs, and since when. The version output and the
deployment are asked for together; the first failure decides.

* `Wait.bothOrFirst`: two waits together that end at the first failure.
* `controllerInfo`: what is known within a scope.
-/

namespace FleetDashboard

/-! ## Waiting for two things -/

namespace Wait

variable {ε α β : Type}

/-- When a wait fails, if it does. -/
def failure? : Wait (Except ε α) → Option (Nat × ε)
  | .after ms (.error e) => some (ms, e)
  | _ => none

/-- Two waits together. They end when both have succeeded, or when one fails; of two failures at
one time the left one counts. -/
def bothOrFirst (left : Wait (Except ε α)) (right : Wait (Except ε β)) : Wait (Except ε (α × β)) :=
  match left.failure?, right.failure? with
  | some (m, e), some (n, f) => if m ≤ n then .after m (.error e) else .after n (.error f)
  | some (m, e), none => .after m (.error e)
  | none, some (n, f) => .after n (.error f)
  | none, none =>
    match left, right with
    | .after m (.ok a), .after n (.ok b) => .after (max m n) (.ok (a, b))
    | _, _ => .never

end Wait

/-! ## The controller manager -/

/-- Who knows about the controller manager. -/
structure ManagerSource where
  /-- The output of its version command. -/
  versionOutput : Wait (Except ServerFailure String)
  /-- Its deployment. -/
  deployment : Wait (Except ServerFailure Deployment)

/-- What is known about the controller manager. -/
structure ControllerInfo where
  /-- Its version. -/
  version : VersionRecord
  /-- Whether as many pods are available as are wanted. -/
  isRunning : Bool
  /-- When it was deployed. -/
  created : Option Instant
deriving DecidableEq

namespace ControllerInfo

/-- What the version output and the deployment tell. One pod is wanted unless it is said how many,
and none is available unless it is said. -/
def ofParts (output : String) (deployment : Deployment) : ControllerInfo :=
  let wanted := (deployment.spec.bind (·.replicas)).getD 1
  let available := (deployment.status.bind (·.availableReplicas)).getD 0
  { version := .parse output
    isRunning := wanted == available
    created := deployment.metadata.created }

/-- The form in response bodies. -/
def toJson (info : ControllerInfo) : Json :=
  .obj [("version", info.version.toJson),
    ("status", .str (if info.isRunning then "running" else "unknown")),
    ("createTime", .ofOption (info.created.map Instant.text))]

end ControllerInfo

variable {ε : Type}

/-- What is known about the controller manager within a scope. -/
def controllerInfo (source : ManagerSource) (scope : Scope) :
    Task ε (Except ResourceError ControllerInfo) := do
  let ending ← Task.await scope (source.versionOutput.bothOrFirst source.deployment)
  return match ending with
    | .result (.ok (output, deployment)) => .ok (.ofParts output deployment)
    | .result (.error failure) => .error (.server failure)
    | .cancelled => .error (.server (.timeout "controller manager lookup cancelled"))
    | .late => .error (.server (.timeout "controller manager lookup exceeded request deadline"))

end FleetDashboard
