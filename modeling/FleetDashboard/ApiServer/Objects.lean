import FleetDashboard.ApiServer.Request
import FleetDashboard.Listing.Lister

/-!
# Listing and getting objects

The paths at which the objects of a kind are found, and the lister that a client is. A single
namespace is listed at its own path; several are listed together and told apart afterwards.

* `ResourcePath`: the paths of collections and of single objects.
* `ApiClient.callRequest`: the request of a call.
* `ApiClient.lister`: the lister that sends its calls through a transport.
-/

namespace FleetDashboard

/-! ## Paths -/

namespace ResourcePath

/-- The path of a group of resources; the oldest one has no name. -/
def group (name version : String) : String :=
  if name = "" then "/api/" ++ version else "/apis/" ++ name ++ "/" ++ version

/-- The path of resources, all of them or those in a namespace. -/
def collection (group plural : String) (inNamespace : Option String) : String :=
  match inNamespace with
  | some only => group ++ "/namespaces/" ++ only ++ "/" ++ plural
  | none => group ++ "/" ++ plural

/-- The path of the objects of a kind. Objects outside of namespaces are never looked for in one. -/
def ofKind (kind : ResourceKind) (inNamespace : Option String) : String :=
  collection (group kind.group kind.version) kind.plural
    (if kind.isNamespaced then inNamespace else none)

/-- The path of one object in a collection; it needs a name. -/
def member (collection name : String) : Except CallFault String :=
  if name = "" then
    .error (.request "failed to validate request: A non-empty name is required")
  else .ok (collection ++ "/" ++ name)

end ResourcePath

/-! ## Calls -/

namespace ApiClient

/-- The method of requests that read. -/
def readMethod : String := "GET"

/-- The request that lists the objects of a kind. -/
def listRequest (client : ApiClient) (kind : ResourceKind) (wanted : Namespaces) :
    Except CallFault ApiRequest :=
  client.request readMethod (ResourcePath.ofKind kind wanted.single?) none

/-- The request that gets one object. -/
def getRequest (client : ApiClient) (kind : ResourceKind) (inNamespace : Option String)
    (name : String) : Except CallFault ApiRequest := do
  let path ← ResourcePath.member (ResourcePath.ofKind kind inNamespace) name
  client.request readMethod path none

/-- The request of a call. -/
def callRequest (client : ApiClient) : Call → Except CallFault ApiRequest
  | .list kind wanted => client.listRequest kind wanted
  | .get kind inNamespace name => client.getRequest kind (some inNamespace) name

/-- What is said about a listing, which is not used. -/
def aboutListing : Shape :=
  .record "ListMeta" [
    .may "continue" .text, .may "remainingItemCount" .int64, .may "resourceVersion" .text,
    .may "selfLink" .text]

/-- The items of a listing. -/
def itemsOf {α : Type} (item : Decoder α) : Decoder (List α) :=
  Decoder.object "struct ObjectList" fun fields => do
    discard (fields.unlessAbsent "metadata" aboutListing.read aboutListing.blank)
    fields.needed "items" (Decoder.listOrNull item)

/-- The objects of a kind in the wanted namespaces, in the order of the server. -/
def list (client : ApiClient) (transport : Transport) (kind : ResourceKind) (wanted : Namespaces) :
    Except CallFault (List ApiObject) := do
  let request ← client.listRequest kind wanted
  let objects ← transport.fetch request (itemsOf ApiObject.decode)
  return objects.filter fun object =>
    !kind.isNamespaced || wanted.admits object.metadata.inNamespace

/-- One object. -/
def get (client : ApiClient) (transport : Transport) (kind : ResourceKind)
    (inNamespace : Option String) (name : String) : Except CallFault ApiObject := do
  let request ← client.getRequest kind inNamespace name
  transport.fetch request ApiObject.decode

/-- The lister that sends its calls through a transport. -/
def lister (client : ApiClient) (transport : Transport) : Lister where
  list kind wanted := .done <|
    match client.list transport kind wanted with
    | .ok objects => .answer objects
    | .error fault => .failure fault.toFailure
  get kind inNamespace name := .done <|
    (client.get transport kind (some inNamespace) name).mapError CallFault.toFailure

end ApiClient

end FleetDashboard
