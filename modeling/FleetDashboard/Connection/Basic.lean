import FleetDashboard.Caller.Identity
import FleetDashboard.ClientError
import FleetDashboard.Uri

/-!
# Connections to API servers

How an API server is reached: its address, the credential, headers and timeouts, and on top of them
the settings of the dashboard. From one connection others are derived: that of a member cluster,
reached through the proxy path of the control plane, and that of a caller's identity.

* `Connection.memberProxy`: the same connection with the member's proxy address.
* `Connection.withIdentity`: the same connection under the caller's credential and impersonation.
* `Connection.effective`: the endpoint with the dashboard's own settings applied.
-/

namespace FleetDashboard

/-- How a connection authenticates itself. -/
structure Credentials where
  /-- A bearer token. -/
  token : Option String
  /-- A user name. -/
  username : Option String
  /-- The password that goes with it. -/
  password : Option String
  /-- The user to act as. -/
  actAs : Option String
  /-- The groups to act in, if any are set. -/
  actAsGroups : Option (List String)
deriving DecidableEq

/-- No credentials. -/
def Credentials.none : Credentials :=
  { token := .none, username := .none, password := .none, actAs := .none, actAsGroups := .none }

/-- An API server and how to speak to it. -/
structure Endpoint where
  /-- Where it is. -/
  address : Uri
  /-- Whether its certificate may be invalid. -/
  acceptInvalidCerts : Bool
  /-- The credentials shown to it. -/
  credentials : Credentials
  /-- Headers sent with every request, their names in small letters. -/
  headers : List (String × String)
  /-- How long connecting may take, in milliseconds. -/
  connectTimeout : Option Nat
  /-- How long reading may take, in milliseconds. -/
  readTimeout : Option Nat
deriving DecidableEq

namespace Endpoint

/-- The timeout for connecting that an endpoint is given at first. -/
def standardConnectTimeout : Nat := 30000

/-- The timeout for reading that an endpoint is given at first. -/
def standardReadTimeout : Nat := 295000

/-- An endpoint at an address, without credentials. -/
def ofAddress (address : Uri) : Endpoint :=
  { address, acceptInvalidCerts := false, credentials := .none, headers := [],
    connectTimeout := some standardConnectTimeout, readTimeout := some standardReadTimeout }

end Endpoint

/-- How many requests a client may send. -/
structure RateLimit where
  /-- Per second. -/
  perSecond : Nat
  /-- At once. -/
  burst : Nat
deriving DecidableEq

/-- The limit when nothing else is set. -/
def RateLimit.standard : RateLimit :=
  { perSecond := 50, burst := 100 }

/-- A connection of the dashboard. -/
structure Connection where
  /-- The API server. -/
  endpoint : Endpoint
  /-- Whether certificates are not checked. -/
  insecure : Bool
  /-- How many requests may be sent. -/
  rateLimit : RateLimit
  /-- The name given to the server. -/
  userAgent : String
deriving DecidableEq

namespace Connection

/-- The name given to servers when nothing else is set. -/
def standardUserAgent : String := "karmada-dashboard"

/-- The timeout for connecting to an endpoint that has none. -/
def defaultConnectTimeout : Nat := 5000

/-- The timeout for reading from an endpoint that has none. -/
def defaultReadTimeout : Nat := 30000

/-- A connection to an endpoint, with the settings that apply when nothing else is set. -/
def ofEndpoint (endpoint : Endpoint) : Connection :=
  { endpoint := { endpoint with
      connectTimeout := some (endpoint.connectTimeout.getD defaultConnectTimeout)
      readTimeout := some (endpoint.readTimeout.getD defaultReadTimeout) }
    insecure := false
    rateLimit := .standard
    userAgent := standardUserAgent }

/-- The text of the server's address. -/
def host (connection : Connection) : String :=
  connection.endpoint.address.text

/-! ## Member clusters -/

/-- The path below which the control plane relays requests to member clusters. -/
def clusterProxyLead : String := "/apis/cluster.karmada.io/v1alpha1/clusters"

/-- The address of a member cluster behind the control plane at `host`. -/
def memberProxyUrl (host cluster : String) : String :=
  Text.trimEnd '/' host ++ clusterProxyLead ++ "/" ++ cluster ++ "/proxy/"

/-- The connection to a member cluster, through the proxy of this one. -/
def memberProxy (connection : Connection) (cluster : String) : Except ClientError Connection :=
  let url := memberProxyUrl connection.host cluster
  match Uri.parse url with
  | .ok address =>
    .ok { connection with endpoint := { connection.endpoint with address } }
  | .error flaw =>
    .error (.construction ("invalid proxy url " ++ url ++ ": " ++ flaw.message))

/-! ## Callers -/

/-- What stands in front of an attribute's key in the name of its header. -/
def extraHeaderLead : String := "Impersonate-Extra-"

/-- What is said of a header name that is none. -/
def badHeaderName : String := "invalid HTTP header name"

/-- What is said of a header value that is none. -/
def badHeaderValue : String := "failed to parse header value"

/-- The headers of one attribute, one for each value. -/
def extraHeaders (key : String) (values : List String) :
    Except ClientError (List (String × String)) :=
  let name := extraHeaderLead ++ key
  if !Headers.isName name then
    .error (.construction ("invalid extra header " ++ name ++ ": " ++ badHeaderName))
  else if !values.all Headers.isValue then
    .error (.construction ("invalid extra header value for " ++ key ++ ": " ++ badHeaderValue))
  else .ok (values.map fun value => (Text.asciiLower name, value))

/-- The headers of all attributes, in their order. -/
def impersonationHeaders (impersonation : Impersonation) :
    Except ClientError (List (String × String)) := do
  return (← impersonation.extra.mapM fun (key, values) => extraHeaders key values).flatten

/-- The credentials of a caller. -/
def credentialsOf (identity : Identity) : Credentials :=
  { Credentials.none with
    token := some identity.token
    actAs := identity.impersonation.map (·.user)
    actAsGroups := (identity.impersonation.map (·.groups)).filter (!·.isEmpty) }

/-- The connection under a caller's credential and impersonation. The credentials replace the ones
there were; the attributes' headers follow the headers there were. -/
def withIdentity (connection : Connection) (identity : Identity) :
    Except ClientError Connection := do
  let added ←
    match identity.impersonation with
    | some impersonation => impersonationHeaders impersonation
    | none => .ok []
  return { connection with
    endpoint := { connection.endpoint with
      credentials := credentialsOf identity
      headers := connection.endpoint.headers ++ added } }

/-! ## The settings in effect -/

/-- The header that names the client. -/
def userAgentHeader : String := "user-agent"

/-- The endpoint with the settings of the dashboard applied. -/
def effective (connection : Connection) : Except ClientError Endpoint :=
  let endpoint := connection.endpoint
  if Headers.isValue connection.userAgent then
    .ok { endpoint with
      acceptInvalidCerts := endpoint.acceptInvalidCerts || connection.insecure
      headers := endpoint.headers.filter (·.1 ≠ userAgentHeader)
        ++ [(userAgentHeader, connection.userAgent)] }
  else .error (.construction ("invalid user agent: " ++ badHeaderValue))

end Connection

end FleetDashboard
