import FleetDashboard.Text.Percent
import FleetDashboard.Views.Catalogue

/-!
# Routes

The paths that are served. A path has to match exactly, without empty segments. A route names the
place that is read and what is shown of it; its variable segments stay as they were written until
`Route.decode` resolves their escapes.

* `Place`: where a route reads.
* `Exhibit`: what it shows.
* `Route`, `Location`: the routes of the API, and with them all paths that are served.
* `Location.ofPath?`: what is at a path.
* `Route.decode`: the route with its escapes resolved.
-/

namespace FleetDashboard

/-! ## Places and exhibits -/

/-- Where a route reads. -/
inductive Place where
  /-- The control plane, acting as the caller. -/
  | controlPlane
  /-- A member cluster. -/
  | member (cluster : String)
  /-- The management cluster. -/
  | management
deriving DecidableEq

/-- What a route shows. -/
inductive Exhibit where
  /-- A list, of some namespaces or of all. -/
  | list (view : ListView) (inNamespace : Option String)
  /-- One pod. -/
  | pod (inNamespace name : String)
  /-- One replica set. -/
  | replicaSet (inNamespace name : String)
deriving DecidableEq

/-- A route of the API. -/
inductive Route where
  /-- The overview. -/
  | overview
  /-- Something shown of a place. -/
  | page (place : Place) (shown : Exhibit)
deriving DecidableEq

/-- Whether a list is shown of a place. -/
def Place.shows : Place → ListView → Bool
  | .controlPlane, view => view ≠ .pods && view ≠ .replicaSets
  | .member _, view => view ≠ .replicaSets
  | .management, view => view = .replicaSets

namespace Exhibit

/-- The list of a name, as far as it is shown of a place. -/
def view? (place : Place) (name : String) : Option ListView :=
  (ListView.ofName? name).filter place.shows

/-- The single object that a place shows besides its lists. -/
def single? (place : Place) (name inNamespace object : String) : Option Exhibit :=
  match place, view? place name with
  | .member _, some .pods => some (.pod inNamespace object)
  | .management, some .replicaSets => some (.replicaSet inNamespace object)
  | _, _ => none

/-- What the last segments of a path show of a place. -/
def ofSegments? (place : Place) : List String → Option Exhibit
  | [name] => (view? place name).map fun view => .list view none
  | [name, inNamespace] =>
    ((view? place name).filter fun view => view.kind.isNamespaced).map fun view =>
      .list view (some inNamespace)
  | [name, inNamespace, object] => single? place name inNamespace object
  | _ => none

end Exhibit

namespace Route

/-- The route of some segments. -/
def ofSegments? : List String → Option Route
  | ["overview"] => some .overview
  | "member" :: cluster :: rest =>
    (Exhibit.ofSegments? (.member cluster) rest).map (.page (.member cluster))
  | "mgmt-cluster" :: rest => (Exhibit.ofSegments? .management rest).map (.page .management)
  | rest => (Exhibit.ofSegments? .controlPlane rest).map (.page .controlPlane)

end Route

/-! ## Paths -/

/-- What is at a path. -/
inductive Location where
  /-- Tells that the service is up. -/
  | alive
  /-- Tells whether the service can work. -/
  | ready
  /-- A route of the API. -/
  | api (route : Route)
deriving DecidableEq

namespace Location

/-- What is at some segments. -/
def ofSegments? : List String → Option Location
  | ["livez"] => some .alive
  | ["readyz"] => some .ready
  | "api" :: "v1" :: rest => (Route.ofSegments? rest).map .api
  | _ => none

/-- What is at a path. Every segment has to hold something. -/
def ofPath? (path : String) : Option Location :=
  match Text.splitString '/' path with
  | "" :: segments => if segments.contains "" then none else ofSegments? segments
  | _ => none

end Location

/-! ## Escapes -/

/-- A variable segment whose bytes are not UTF-8. -/
structure SegmentFlaw where
  /-- The name of the segment. -/
  segment : String
deriving DecidableEq

/-- The wording of a flaw. -/
def SegmentFlaw.message (flaw : SegmentFlaw) : String :=
  let tick := String.singleton (Char.ofNat 0x60)
  "Invalid URL: Invalid UTF-8 in " ++ tick ++ flaw.segment ++ tick

/-- A variable segment with its escapes resolved. -/
def decodeSegment (segment part : String) : Except SegmentFlaw String :=
  match Text.Percent.decode? part with
  | some text => .ok text
  | none => .error { segment }

/-- The place with its escapes resolved. -/
def Place.decode : Place → Except SegmentFlaw Place
  | .controlPlane => .ok .controlPlane
  | .member cluster => do return .member (← decodeSegment "cluster" cluster)
  | .management => .ok .management

/-- What is shown, with its escapes resolved. -/
def Exhibit.decode : Exhibit → Except SegmentFlaw Exhibit
  | .list view none => .ok (.list view none)
  | .list view (some inNamespace) => do
    return .list view (some (← decodeSegment "namespace" inNamespace))
  | .pod inNamespace name => do
    return .pod (← decodeSegment "namespace" inNamespace) (← decodeSegment "name" name)
  | .replicaSet inNamespace name => do
    return .replicaSet (← decodeSegment "namespace" inNamespace) (← decodeSegment "name" name)

/-- The route with its escapes resolved; the first flaw in the order of the path decides. -/
def Route.decode : Route → Except SegmentFlaw Route
  | .overview => .ok .overview
  | .page place shown => do return .page (← place.decode) (← shown.decode)

end FleetDashboard
