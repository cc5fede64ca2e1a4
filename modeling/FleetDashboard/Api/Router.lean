import FleetDashboard.Api.ListParameters
import FleetDashboard.Api.Overview
import FleetDashboard.Api.Route

/-!
# Serving requests

How a request comes to its response. On a route of the API it is authenticated first; then access is
decided, to the member cluster that the route names or to the management cluster; then the method,
the segments of the path and the query are looked at, in this order; and only then is a target
reached and read.

* `Service.authorize`: decides access.
* `Service.servePage`: shows something of a place.
* `Service.serve`: serves an authenticated request.
* `Service.respond`: responds to any request.
-/

namespace FleetDashboard

namespace Service

/-! ## Access -/

/-- A decision on access as it is answered. -/
def admission (outcome : Except ClientError Unit) : Except HttpResponse Unit :=
  outcome.mapError fun error => .ofError (.client error)

/-- Decides whether the caller may use a route. The segments of a route to a member cluster have to
be readable for that. -/
def authorize (service : Service) (route : Route) (user : Option String) (scope : Scope) :
    Task ServiceEvent (Except HttpResponse Unit) :=
  match route with
  | .page (.member _) _ =>
    match route.decode with
    | .ok (.page (.member cluster) _) => do
      return admission (← service.gate.require user cluster scope)
    | .ok _ => .done (.ok ())
    | .error flaw => .done (.error (.malformed flaw.message))
  | .page .management _ => do
    return admission (← service.gate.requireAdmin user scope)
  | _ => .done (.ok ())

/-! ## Pages -/

/-- Reaches the target that a place stands for. -/
def reachPlace (service : Service) (place : Place) (identity : Identity) :
    Task ServiceEvent (Except ClientError BoundLister) :=
  match place with
  | .controlPlane => reach (.controlPlane identity) (service.targets.controlPlane identity)
  | .member cluster => reach (.member cluster) (service.targets.member cluster)
  | .management => reach .management service.targets.management

/-- Reads from a place and answers with what is read. -/
def readPlace (service : Service) (place : Place) (identity : Identity)
    (work : Lister → Task Call (ViewResult Json)) : Task ServiceEvent HttpResponse := do
  match ← service.reachPlace place identity with
  | .error error => return .ofError (.client error)
  | .ok bound =>
    let result ← read bound work
    return .ofResult result

/-- Shows a list of a place. The selection is looked at when the place has been reached; a malformed
one keeps the place from being read. -/
def serveList (service : Service) (place : Place) (view : ListView)
    (inNamespace query : Option String) (identity : Identity) (scope : Scope) :
    Task ServiceEvent HttpResponse :=
  match ListParameters.parse (query.getD "") with
  | .error flaw => .done (.malformed flaw.message)
  | .ok parameters =>
    service.readPlace place identity fun lister =>
      match parameters.selection with
      | .error flaw => .done (.error (.ofQueryFlaw flaw))
      | .ok selection =>
        view.document {
          lister
          wanted := .parse inNamespace
          query := selection
          scope
          pageCap := service.pageCap }

/-- Shows something of a place. -/
def servePage (service : Service) (place : Place) (shown : Exhibit) (query : Option String)
    (identity : Identity) (scope : Scope) : Task ServiceEvent HttpResponse :=
  match shown with
  | .list view inNamespace => service.serveList place view inNamespace query identity scope
  | .pod inNamespace name =>
    service.readPlace place identity fun lister => do
      let pod ← podDetail lister inNamespace name scope
      return pod.map Pod.toJson
  | .replicaSet inNamespace name =>
    service.readPlace place identity fun lister => do
      let set ← replicaSetDetail lister inNamespace name scope
      return set.map Item.toJson

/-- Shows what a route shows. -/
def serveRoute (service : Service) (route : Route) (query : Option String) (identity : Identity)
    (scope : Scope) : Task ServiceEvent HttpResponse :=
  match route.decode with
  | .error flaw => .done (.malformed flaw.message)
  | .ok .overview => service.overview identity scope
  | .ok (.page place shown) => service.servePage place shown query identity scope

/-! ## Requests -/

/-- Serves an authenticated request on a route. -/
def serve (service : Service) (route : Route) (request : HttpRequest) (identity : Identity) :
    Task ServiceEvent HttpResponse := do
  let scope ← service.openScope
  match ← service.authorize route identity.username scope with
  | .error response => return response
  | .ok () =>
    if request.isRead then service.serveRoute route request.query identity scope
    else return .methodNotAllowed

/-- Responds to a request on a route of the API. The slot for the current user names its user while
it is served. -/
def respondApi (service : Service) (route : Route) (request : HttpRequest) :
    Task ServiceEvent HttpResponse := do
  match ← (service.authenticator.authenticate request.headers).mapLog .consulted with
  | .error error => return .ofError (.client error)
  | .ok identity =>
    Task.note (.entered identity.username)
    let response ← service.serve route request identity
    Task.note .left
    return response

/-- Responds to a request that needs no caller. -/
def respondPlain (request : HttpRequest) (response : HttpResponse) : HttpResponse :=
  if request.isRead then response else .methodNotAllowed

/-- Whether the service can work, as it is answered. -/
def readiness (service : Service) : HttpResponse :=
  .text (if service.targets.isReady then 200 else 503) ""

/-- Responds to a request, body and all. -/
def respondFully (service : Service) (request : HttpRequest) : Task ServiceEvent HttpResponse :=
  match Location.ofPath? request.path with
  | none => .done .notFound
  | some .alive => .done (respondPlain request (.text 200 "ok"))
  | some .ready => .done (respondPlain request service.readiness)
  | some (.api route) => service.respondApi route request

/-- Responds to a request. -/
def respond (service : Service) (request : HttpRequest) : Task ServiceEvent HttpResponse := do
  let response ← service.respondFully request
  return response.fitted request

end Service

end FleetDashboard
