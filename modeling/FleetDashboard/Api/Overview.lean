import FleetDashboard.Api.Service
import FleetDashboard.Overview.Argo
import FleetDashboard.Overview.Members
import FleetDashboard.Overview.Resources

/-!
# The overview

One page that sums up the whole fleet. The controller manager, the member clusters and the resources
of the control plane are looked up side by side; the Argo CD objects of the members that are ready
follow. The controller manager may fail without harm, and so may single members. Where the member
clusters cannot be counted the work breaks off.

* `Overview`: the page.
* `Service.overview`: looks everything up.
-/

namespace FleetDashboard

/-- The page that sums up the fleet. -/
structure Overview where
  /-- The controller manager, if it is known. -/
  controller : Option ControllerInfo
  /-- The member clusters that the caller may access. -/
  members : MemberSummary
  /-- The resources of the control plane. -/
  resources : ResourceSummary
  /-- The Argo CD objects of the members that are ready. -/
  argo : ArgoCounts

/-- The form in response bodies. -/
def Overview.toJson (overview : Overview) : Json :=
  .obj [("karmadaInfo", (overview.controller.map ControllerInfo.toJson).getD .null),
    ("memberClusterStatus", overview.members.toJson),
    ("clusterResourceStatus", overview.resources.toJson), ("argoMetrics", overview.argo.toJson)]

namespace Service

/-- The controller manager, if it is known within the scope. -/
def controller? (service : Service) (scope : Scope) :
    Task ServiceEvent (Option ControllerInfo) := do
  match ← reach .manager service.targets.manager with
  | .error _ => return none
  | .ok source =>
    let info ← controllerInfo source scope
    return info.toOption

/-- The listers of the members that can be reached, in order. -/
def reachable (service : Service) (members : List String) :
    Task ServiceEvent (List BoundLister) := fun now =>
  ⟨members.filterMap fun name => (service.targets.member name).toOption, now,
    members.map fun name => .asked (.member name)⟩

/-- Drops the clients of the members that are not registered, if it is known which ones are. -/
def retain (registered : Option (List String)) : Task ServiceEvent Unit := fun now =>
  ⟨(), now, registered.toList.map .retained⟩

/-- The parts of the overview that are looked up side by side. -/
def overviewParts (service : Service) (controlPlane : BoundLister) (user : Option String)
    (scope : Scope) : Task ServiceEvent
      (Option ControllerInfo × ViewResult (Option MemberSummary) × ViewResult ResourceSummary) :=
  Task.both (service.controller? scope) <|
    Task.both (read controlPlane fun lister => memberSummary lister service.gate user scope)
      (read controlPlane fun lister => resourceSummary lister scope)

/-- The overview for a caller. Of two failures that of the member clusters counts. -/
def overview (service : Service) (identity : Identity) (scope : Scope) :
    Task ServiceEvent HttpResponse := do
  match ← reach (.controlPlane identity) (service.targets.controlPlane identity) with
  | .error error => return .ofError (.client error)
  | .ok controlPlane =>
    match ← service.overviewParts controlPlane identity.username scope with
    | (_, .error error, _) => return .ofError (.resource error)
    | (_, .ok none, _) => return .broken
    | (_, .ok (some _), .error error) => return .ofError (.resource error)
    | (controller, .ok (some members), .ok resources) =>
      retain members.registered
      let ready ← service.reachable members.ready
      let argo ← (argoCounts ready scope).mapLog .called
      return .success { controller, members, resources, argo : Overview }.toJson

end Service

end FleetDashboard
