import FleetDashboard.Connection.Basic

/-!
# Clients of API servers

A client knows where its API server is and which headers go with every request. It is built from a
connection whose settings can all be written as headers.
-/

namespace FleetDashboard

/-- A client of one API server. -/
structure ApiClient where
  /-- Where the API server is. -/
  address : Uri
  /-- The headers of every request, their names in small letters. -/
  headers : List (String × String)
deriving DecidableEq

namespace ApiClient

/-- The header of the acting user. -/
def actAsHeader : String := "impersonate-user"

/-- The header of an acting group. -/
def actAsGroupHeader : String := "impersonate-group"

/-- The header of the credential. -/
def credentialHeader : String := "authorization"

/-- A header, if its value can be written. -/
def header (name value : String) : Except ClientError (String × String) :=
  if Headers.isValue value then .ok (name, value)
  else .error (.construction ("HttpError: " ++ Connection.badHeaderValue))

/-- The headers that act as another user and in groups. -/
def actingHeaders (credentials : Credentials) : Except ClientError (List (String × String)) := do
  let user ← credentials.actAs.toList.mapM (header actAsHeader)
  let groups ← (credentials.actAsGroups.getD []).mapM (header actAsGroupHeader)
  return user ++ groups

/-- The header of a bearer token. -/
def tokenHeaders (credentials : Credentials) : List (String × String) :=
  credentials.token.toList.map fun token => (credentialHeader, Identity.bearerLead ++ token)

/-- The client of an endpoint. -/
def ofEndpoint (endpoint : Endpoint) : Except ClientError ApiClient := do
  let acting ← actingHeaders endpoint.credentials
  return {
    address := endpoint.address
    headers := endpoint.headers ++ acting ++ tokenHeaders endpoint.credentials }

end ApiClient

/-- The client of a connection. -/
def Connection.client (connection : Connection) : Except ClientError ApiClient := do
  ApiClient.ofEndpoint (← connection.effective)

end FleetDashboard
