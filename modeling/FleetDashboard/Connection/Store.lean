import FleetDashboard.Connection.Basic

/-!
# The connections of the process

Three connections last as long as the process and are set at most once: that of the API server next
to the dashboard, that of the control plane, and the template from which those of member clusters
are derived. Setting the control plane takes two steps, the template first; whoever passes the first
one is the only one to take the second.
-/

namespace FleetDashboard

/-- The connections that have been set. -/
structure ConnectionStore where
  /-- To the API server next to the dashboard. -/
  apiServer? : Option Connection
  /-- To the control plane. -/
  controlPlane? : Option Connection
  /-- The template for member clusters. -/
  memberTemplate? : Option Connection
deriving DecidableEq

namespace ConnectionStore

/-- No connection has been set. -/
def empty : ConnectionStore :=
  { apiServer? := none, controlPlane? := none, memberTemplate? := none }

/-! ## Setting -/

/-- Sets the connection to the API server, unless it is set. -/
def setApiServer (store : ConnectionStore) (connection : Connection) :
    Except ClientError ConnectionStore :=
  match store.apiServer? with
  | some _ => .error (.config "api-server configuration already set")
  | none => .ok { store with apiServer? := some connection }

/-- Sets the template, unless it is set. -/
def setMemberTemplate (store : ConnectionStore) (connection : Connection) :
    Except ClientError ConnectionStore :=
  match store.memberTemplate? with
  | some _ => .error (.config "member template already set")
  | none => .ok { store with memberTemplate? := some connection }

/-- Sets the connection to the control plane, unless it is set. -/
def fillControlPlane (store : ConnectionStore) (connection : Connection) :
    Except ClientError ConnectionStore :=
  match store.controlPlane? with
  | some _ => .error (.config "control-plane configuration already set")
  | none => .ok { store with controlPlane? := some connection }

/-- Sets the template and the connection to the control plane. -/
def setControlPlane (store : ConnectionStore) (connection : Connection) :
    Except ClientError ConnectionStore := do
  (← store.setMemberTemplate connection).fillControlPlane connection

/-! ## Reading -/

/-- A connection that has been set, or the error that names it. -/
def need (name : String) : Option Connection → Except ClientError Connection
  | some connection => .ok connection
  | none => .error (.notInitialized name)

theorem need_eq_ok_iff {name : String} {held : Option Connection} {connection : Connection} :
    need name held = .ok connection ↔ held = some connection := by
  cases held <;> simp [need]

/-- The connection to the API server. -/
def apiServer (store : ConnectionStore) : Except ClientError Connection :=
  need "api-server" store.apiServer?

/-- The connection to the control plane. -/
def controlPlane (store : ConnectionStore) : Except ClientError Connection :=
  need "control-plane" store.controlPlane?

/-- The template for member clusters. -/
def memberTemplate (store : ConnectionStore) : Except ClientError Connection :=
  need "member-template" store.memberTemplate?

end ConnectionStore

end FleetDashboard
