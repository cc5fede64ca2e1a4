import FleetDashboard.ApiServer.Client
import FleetDashboard.Clients.ClusterName
import FleetDashboard.Clients.Target
import FleetDashboard.Connection.Store

/-!
# The client cache

Clients are built when they are first asked for and kept, one for each target. Building looks the
target up, builds a client, and offers it to the cache, which keeps the first one that it is offered
and hands that one to everybody.

* `ClientHandle`: a client that was built for a target. Handles are told apart by their serial
  numbers.
* `ClientRegistry.cached?`, `construct`, `offer`: the three steps.
* `ClientRegistry.obtain`: the three in a row.
* `ClientRegistry.member`: the client of a member cluster; the management cluster's name stands for
  the API server next to the dashboard.
* `ClientRegistry.retain`: evicts the members that are no longer registered.
-/

namespace FleetDashboard

/-- A client that was built. -/
structure ClientHandle where
  /-- The number of the client, in order of building. -/
  serial : Nat
  /-- What it talks to. -/
  target : ClientTarget
  /-- The text of the server's address. -/
  host : String
  /-- The client. -/
  client : ApiClient
deriving DecidableEq

/-- The text of a handle in logs. -/
def ClientHandle.logText (handle : ClientHandle) : String :=
  "ClientHandle \x7b target: " ++ handle.target.logText ++ ", host: " ++ Text.quote handle.host
    ++ " \x7d"

/-- The connections of the process and the clients that are kept. -/
structure ClientRegistry where
  /-- The connections. -/
  connections : ConnectionStore
  /-- The clients by target, each target once. -/
  cache : List (ClientTarget × ClientHandle)
  /-- The number of the next client to be built. -/
  nextSerial : Nat
deriving DecidableEq

/-- The fallback credential's place: a secret in a namespace, read through a client. -/
structure SecretStore where
  /-- The client. -/
  handle : ClientHandle
  /-- The secret's namespace. -/
  inNamespace : String
deriving DecidableEq

namespace ClientRegistry

/-- A registry without clients. -/
def ofConnections (connections : ConnectionStore) : ClientRegistry :=
  { connections, cache := [], nextSerial := 0 }

/-- The targets whose clients are kept. -/
def targets (registry : ClientRegistry) : List ClientTarget :=
  registry.cache.map (·.1)

/-! ## Building -/

/-- The client that is kept for a target. -/
def cached? (registry : ClientRegistry) (target : ClientTarget) : Option ClientHandle :=
  (registry.cache.find? fun entry => entry.1 == target).map (·.2)

/-- The connection to a target. -/
def connectionTo (registry : ClientRegistry) : ClientTarget → Except ClientError Connection
  | .controlPlane => registry.connections.controlPlane
  | .apiServer => registry.connections.apiServer
  | .member name => do (← registry.connections.memberTemplate).memberProxy name

/-- Builds a client, which gets a number of its own. The cache is left as it is. -/
def construct (registry : ClientRegistry) (target : ClientTarget) :
    Except ClientError (ClientHandle × ClientRegistry) := do
  let connection ← registry.connectionTo target
  let client ← connection.client
  let handle := { serial := registry.nextSerial, target, host := connection.host, client }
  return (handle, { registry with nextSerial := registry.nextSerial + 1 })

/-- Offers a client to the cache: it is kept unless there is one for its target. The client that is
kept now is handed out. -/
def offer (registry : ClientRegistry) (handle : ClientHandle) : ClientHandle × ClientRegistry :=
  match registry.cached? handle.target with
  | some kept => (kept, registry)
  | none => (handle, { registry with cache := registry.cache ++ [(handle.target, handle)] })

/-- The client for a target, built if there is none. -/
def obtain (registry : ClientRegistry) (target : ClientTarget) :
    Except ClientError (ClientHandle × ClientRegistry) :=
  match registry.cached? target with
  | some handle => .ok (handle, registry)
  | none => do
    let (handle, registry) ← registry.construct target
    return registry.offer handle

/-! ## Clients by purpose -/

/-- The client of the control plane. -/
def controlPlane (registry : ClientRegistry) :
    Except ClientError (ClientHandle × ClientRegistry) :=
  registry.obtain .controlPlane

/-- The client of the API server next to the dashboard. -/
def apiServer (registry : ClientRegistry) : Except ClientError (ClientHandle × ClientRegistry) :=
  registry.obtain .apiServer

/-- The client of a member cluster, or for the name of the management cluster that of the API server
next to the dashboard. -/
def member (registry : ClientRegistry) (cluster : String) :
    Except ClientError (ClientHandle × ClientRegistry) :=
  if cluster = managementCluster then registry.apiServer
  else do
    ClusterName.validate cluster
    registry.obtain (.member cluster)

/-- A client of the control plane that acts for a caller. It is never kept. -/
def clientFor (registry : ClientRegistry) (identity : Identity) : Except ClientError ApiClient := do
  let connection ← registry.connections.controlPlane
  (← connection.withIdentity identity).client

/-- The place of the fallback credential in a namespace. -/
def secretStore (registry : ClientRegistry) (inNamespace : String) :
    Except ClientError (SecretStore × ClientRegistry) := do
  let (handle, registry) ← registry.apiServer
  return ({ handle, inNamespace }, registry)

/-! ## Evicting -/

/-- Drops the client of a target, and tells whether there was one. -/
def invalidate (registry : ClientRegistry) (target : ClientTarget) : Bool × ClientRegistry :=
  ((registry.cached? target).isSome,
    { registry with cache := registry.cache.filter fun entry => entry.1 != target })

/-- Drops the client of a member. -/
def invalidateMember (registry : ClientRegistry) (name : String) : Bool × ClientRegistry :=
  registry.invalidate (.member name)

/-- Drops all clients. -/
def invalidateAll (registry : ClientRegistry) : ClientRegistry :=
  { registry with cache := [] }

/-- Whether a target stays when these members are registered. -/
def staysWith (registered : List String) (target : ClientTarget) : Bool :=
  match target.memberName? with
  | some name => registered.contains name
  | none => true

/-- Drops the clients of the members that are not registered, and tells their names. -/
def retain (registry : ClientRegistry) (registered : List String) :
    List String × ClientRegistry :=
  ((registry.targets.filter fun target => !staysWith registered target).filterMap
      ClientTarget.memberName?,
    { registry with cache := registry.cache.filter fun entry => staysWith registered entry.1 })

end ClientRegistry

end FleetDashboard
