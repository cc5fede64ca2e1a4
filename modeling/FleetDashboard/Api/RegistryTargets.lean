import FleetDashboard.Api.Service
import FleetDashboard.ApiServer.ManagerPods
import FleetDashboard.Clients.Registry

/-!
# Targets behind the client cache

The targets whose listers are the clients of a registry, read through a transport. Clients of
callers are built for each request and never kept; all others are obtained from the registry. What
serving a request asked for tells which clients the registry keeps afterwards.

* `Targets.ofRegistry`: the targets.
* `ClientRegistry.after`: the registry after an event of a request.
-/

namespace FleetDashboard

namespace ClientHandle

/-- The lister of a client, bound to its target. -/
def bound (handle : ClientHandle) (transport : Transport) : BoundLister :=
  { target := handle.target, lister := handle.client.lister transport }

end ClientHandle

/-- The targets behind a registry. -/
def Targets.ofRegistry (registry : ClientRegistry) (transport : Transport) : Targets where
  controlPlane identity := do
    let client ← registry.clientFor identity
    return { target := .controlPlane, lister := client.lister transport }
  member cluster := do
    let (handle, _) ← registry.member cluster
    return handle.bound transport
  management := do
    let (handle, _) ← registry.apiServer
    return handle.bound transport
  manager := do
    let (handle, _) ← registry.apiServer
    return handle.client.managerSource transport
  isReady := registry.connections.controlPlane?.isSome && registry.connections.apiServer?.isSome

namespace ClientRegistry

/-- The registry after a client was asked for; as it was, if there is none. -/
def keeping (registry : ClientRegistry)
    (outcome : Except ClientError (ClientHandle × ClientRegistry)) : ClientRegistry :=
  match outcome with
  | .ok (_, registry) => registry
  | .error _ => registry

/-- The registry after an event of a request. -/
def after (registry : ClientRegistry) : ServiceEvent → ClientRegistry
  | .asked (.member cluster) => registry.keeping (registry.member cluster)
  | .asked .management => registry.keeping registry.apiServer
  | .asked .manager => registry.keeping registry.apiServer
  | .retained registered => (registry.retain registered).2
  | _ => registry

end ClientRegistry

end FleetDashboard
