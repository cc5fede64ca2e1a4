import FleetDashboard.Access.Gate
import FleetDashboard.Api.Message
import FleetDashboard.Caller.Authentication
import FleetDashboard.Caller.UserSlot
import FleetDashboard.Clients.Target
import FleetDashboard.Overview.ControllerManager
import FleetDashboard.Views.Basic

/-!
# The service

What the service consists of, and what serving a request leaves behind: whom it consulted, which
targets it asked for, which calls it started there, and which members it kept.

* `Targets`: where answers come from.
* `ServiceEvent`: what serving a request leaves behind, in order.
* `Service`: the targets, authentication, access and limits.
* `Service.reach`: asks for a target.
* `Service.read`: work on the lister of a target.
-/

namespace FleetDashboard

/-! ## Targets -/

/-- A target that is asked for. -/
inductive TargetRequest where
  /-- The control plane, acting as a caller. -/
  | controlPlane (identity : Identity)
  /-- A member cluster. -/
  | member (cluster : String)
  /-- The management cluster. -/
  | management
  /-- The controller manager on the management cluster. -/
  | manager
deriving DecidableEq

/-- Where answers come from. -/
structure Targets where
  /-- The control plane, acting as a caller. -/
  controlPlane : Identity → Except ClientError BoundLister
  /-- A member cluster. -/
  member : String → Except ClientError BoundLister
  /-- The management cluster. -/
  management : Except ClientError BoundLister
  /-- The controller manager on the management cluster. -/
  manager : Except ClientError ManagerSource
  /-- Whether every target is configured. -/
  isReady : Bool

/-! ## Events -/

/-- What serving a request leaves behind. -/
inductive ServiceEvent where
  /-- Authentication asked somebody. -/
  | consulted (whom : Consultation)
  /-- The request began to be served, for a user if one is known. -/
  | entered (user : Option String)
  /-- A target was asked for. -/
  | asked (target : TargetRequest)
  /-- A call was started. -/
  | called (call : TargetCall)
  /-- The clients of all but the registered members were dropped. -/
  | retained (registered : List String)
  /-- The request was served. -/
  | left
deriving DecidableEq

namespace ServiceEvent

/-- The call that was started, if the event is one. -/
def call? : ServiceEvent → Option TargetCall
  | .called call => some call
  | _ => none

/-- What the event does to the slot for the current user, when the request has the guard of a
number. -/
def slotEvent? (guard : Nat) : ServiceEvent → Option SlotEvent
  | .entered user => some (.enter guard user)
  | .left => some (.drop guard)
  | _ => none

end ServiceEvent

/-! ## The service -/

/-- The service. -/
structure Service where
  /-- Where answers come from. -/
  targets : Targets
  /-- How requests are authenticated. -/
  authenticator : Authenticator
  /-- Where access is decided. -/
  gate : AccessGate
  /-- The greatest number of items on a page. -/
  pageCap : Nat
  /-- How long the work for one request may take, in milliseconds. -/
  requestTimeout : Nat

namespace Service

variable {α : Type}

/-- The scope of a request that begins now. -/
def openScope (service : Service) : Task ServiceEvent Scope := fun now =>
  ⟨.lasting now service.requestTimeout, now, []⟩

/-- The answer of a target that is asked for. -/
def reach (target : TargetRequest) (answer : α) : Task ServiceEvent α := fun now =>
  ⟨answer, now, [.asked target]⟩

/-- Work on the lister of a target. -/
def read (bound : BoundLister) (work : Lister → Task Call α) : Task ServiceEvent α :=
  (bound.run work).mapLog .called

end Service

end FleetDashboard
