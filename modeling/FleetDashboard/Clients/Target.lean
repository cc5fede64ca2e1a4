import FleetDashboard.Access.Gate
import FleetDashboard.Listing.Lister
import FleetDashboard.Text.Quoted

/-!
# Targets

What the dashboard talks to: the control plane, the API server next to it, and the member clusters.
A lister is bound to the target whose objects it lists.
-/

namespace FleetDashboard

/-- What a client talks to. -/
inductive ClientTarget where
  /-- The control plane. -/
  | controlPlane
  /-- The API server next to the dashboard. -/
  | apiServer
  /-- A member cluster. -/
  | member (name : String)
deriving DecidableEq

namespace ClientTarget

/-- The text of a target. -/
def text : ClientTarget → String
  | .controlPlane => "control-plane"
  | .apiServer => "api-server"
  | .member name => "member:" ++ name

/-- The text of a target in logs. -/
def logText : ClientTarget → String
  | .controlPlane => "ControlPlane"
  | .apiServer => "ApiServer"
  | .member name => "Member(" ++ Text.quote name ++ ")"

/-- The member's name, if the target is a member. -/
def memberName? : ClientTarget → Option String
  | .member name => some name
  | _ => none

/-- The target that the name of a cluster stands for. -/
def ofCluster (cluster : String) : ClientTarget :=
  if cluster = managementCluster then .apiServer else .member cluster

end ClientTarget

/-- A lister and the target whose objects it lists. -/
structure BoundLister where
  /-- The target. -/
  target : ClientTarget
  /-- The lister. -/
  lister : Lister

/-- A call and the target that it goes to. -/
structure TargetCall where
  /-- The target. -/
  target : ClientTarget
  /-- The call. -/
  call : Call
deriving DecidableEq

/-- Work on the lister of a target; its calls are those of the target. -/
def BoundLister.run {α : Type} (bound : BoundLister) (work : Lister → Task Call α) :
    Task TargetCall α :=
  (work bound.lister).mapLog fun call => { target := bound.target, call }

end FleetDashboard
