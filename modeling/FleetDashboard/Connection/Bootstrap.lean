import FleetDashboard.Connection.Kubeconfig
import FleetDashboard.Connection.Store

/-!
# Setting up the connections

The dashboard reads the connection to the API server next to it from its surroundings, if it runs in
a cluster, or else from a kubeconfig, and that to the control plane from a kubeconfig of its own.
-/

namespace FleetDashboard

/-- What is said at start. -/
structure BootstrapOptions where
  /-- The file for the API server. -/
  kubeconfig : Option String
  /-- Its context, if not the current one. -/
  context : Option String
  /-- The file for the control plane. -/
  karmadaKubeconfig : Option String
  /-- Its context, if not the current one. -/
  karmadaContext : Option String
  /-- Whether certificates are not checked. -/
  insecure : Bool
  /-- How many requests may be sent. -/
  rateLimit : RateLimit
  /-- The part of the dashboard that is started. -/
  component : Option String

namespace BootstrapOptions

/-- The name given to servers: the dashboard's, and the component behind a slash. -/
def userAgent (options : BootstrapOptions) : String :=
  match options.component.filter (· ≠ "") with
  | some component => Connection.standardUserAgent ++ "/" ++ component
  | none => Connection.standardUserAgent

/-- The connection with the settings of the options. -/
def apply (options : BootstrapOptions) (connection : Connection) : Connection :=
  { connection with
    insecure := options.insecure
    rateLimit := options.rateLimit
    userAgent := options.userAgent }

end BootstrapOptions

namespace ConnectionStore

/-- Why the connection could not be read from the surroundings. -/
def notInCluster : ClientError :=
  .config ("in-cluster configuration unavailable: failed to read an incluster environment "
    ++ "variable: environment variable not found")

/-- The connection of a context in a file. -/
def fromKubeconfig (files : String → Option Json) (path : String) (context : Option String) :
    Except ClientError Connection :=
  match files path with
  | none => .error (.config ("failed to read kubeconfig " ++ path))
  | some content =>
    match (Kubeconfig.ofJson content).load context with
    | .ok endpoint => .ok (.ofEndpoint endpoint)
    | .error flaw => .error (.config ("failed to load kubeconfig: " ++ flaw.message))

/-- The connections that the options ask for. The surroundings hold none, so the API server's comes
from a file. -/
def bootstrap (files : String → Option Json) (options : BootstrapOptions) :
    Except ClientError ConnectionStore := do
  let path ←
    match options.kubeconfig with
    | some path => .ok path
    | none => .error (.config ("no kubeconfig given and " ++ notInCluster.message))
  let apiServer ← fromKubeconfig files path options.context
  let store ← empty.setApiServer (options.apply apiServer)
  let karmadaPath ←
    match options.karmadaKubeconfig with
    | some path => .ok path
    | none => .error (.config "karmada kubeconfig is required")
  let controlPlane ← fromKubeconfig files karmadaPath options.karmadaContext
  store.setControlPlane (options.apply controlPlane)

end ConnectionStore

end FleetDashboard
