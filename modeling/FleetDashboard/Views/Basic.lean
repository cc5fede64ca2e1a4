import FleetDashboard.Kubernetes.Pod
import FleetDashboard.Listing.Gather
import FleetDashboard.ResourceError
import FleetDashboard.Selection.Select

/-!
# What views have in common

A list view gathers the kinds that it shows, turns objects into items, counts them, and selects a
page. The number of items after filtering and that before it are both reported.

* `ObjectSummary`: the part of the metadata that every item shows.
* `PodCounts`: the pods behind an item by phase.
* `StatusCounts`: the items of a listing by status.
* `ListPage`: a page of items with its counts and warnings.
* `ListRequest.fetch`: the items of one kind and the warnings.
* `ListRequest.page`: the page that is asked for.
-/

namespace FleetDashboard

open Selection (Property Value HasProperties)

/-! ## Metadata -/

/-- The part of the metadata that is shown. -/
structure ObjectSummary where
  /-- The name. -/
  name : String
  /-- The namespace; empty outside of namespaces. -/
  inNamespace : String
  /-- The labels. -/
  labels : List (String × String)
  /-- The annotations. -/
  annotations : List (String × String)
  /-- When the object was created. -/
  created : Option Instant
  /-- The unique id; empty if there is none. -/
  uid : String
deriving DecidableEq

namespace ObjectSummary

/-- The part of some metadata that is shown. -/
def ofMetadata (metadata : Metadata) : ObjectSummary :=
  { name := metadata.name.getD ""
    inNamespace := metadata.inNamespace.getD ""
    labels := metadata.labels.getD []
    annotations := metadata.annotations.getD []
    created := metadata.created
    uid := metadata.uid.getD "" }

/-- The field of a text, unless it is empty. -/
def textField (name value : String) : List (String × Json) :=
  Json.field? name (if value = "" then none else some (.str value))

/-- The field of a map, unless it is empty. -/
def mapField (name : String) (entries : List (String × String)) : List (String × Json) :=
  Json.field? name (if entries.isEmpty then none else some (Metadata.mapJson entries))

/-- The form in response bodies; what is empty is left out. -/
def toJson (summary : ObjectSummary) : Json :=
  .obj ([("name", .str summary.name)] ++ textField "namespace" summary.inNamespace
    ++ mapField "labels" summary.labels ++ mapField "annotations" summary.annotations
    ++ Json.field? "creationTimestamp" (summary.created.map fun t => .str t.text)
    ++ textField "uid" summary.uid)

/-- The value of a label. -/
def label? (summary : ObjectSummary) (key : String) : Option String :=
  (summary.labels.find? fun entry => entry.1 == key).map (·.2)

/-- The properties that every item has. -/
def property? (summary : ObjectSummary) : Property → Option Value
  | .objectName => some (.str summary.name)
  | .objectNamespace => some (.str summary.inNamespace)
  | .created => summary.created.map Value.time
  | .label key => (summary.label? key).map Value.str
  | _ => none

end ObjectSummary

/-- The kind of an item in response bodies. -/
def kindJson (kind : ResourceKind) : Json :=
  .obj [("kind", .str kind.jsonName)]

/-! ## Counts -/

/-- The pods behind an item. -/
structure PodCounts where
  /-- How many pods there are by the object's own account. -/
  current : Int
  /-- How many are wanted. -/
  desired : Option Int
  /-- Pods in the phase `Running`. -/
  running : Nat
  /-- Pods in the phase `Pending`. -/
  pending : Nat
  /-- Pods in the phase `Failed`. -/
  failed : Nat
  /-- Pods in the phase `Succeeded`. -/
  succeeded : Nat
deriving DecidableEq

namespace PodCounts

/-- How many pods are in a phase. -/
def inPhase (phase : String) (pods : List Pod) : Nat :=
  pods.countP fun pod => pod.phase? == some phase

/-- The counts over some pods. -/
def ofPods (current : Int) (desired : Option Int) (pods : List Pod) : PodCounts :=
  { current, desired
    running := inPhase "Running" pods
    pending := inPhase "Pending" pods
    failed := inPhase "Failed" pods
    succeeded := inPhase "Succeeded" pods }

/-- The form in response bodies. -/
def toJson (counts : PodCounts) : Json :=
  .obj [("current", .int counts.current), ("desired", (counts.desired.map Json.int).getD .null),
    ("running", .nat counts.running), ("pending", .nat counts.pending),
    ("failed", .nat counts.failed), ("succeeded", .nat counts.succeeded)]

end PodCounts

/-- The items of a listing by status. -/
structure StatusCounts where
  running : Nat
  pending : Nat
  failed : Nat
  succeeded : Nat
  terminating : Nat
deriving DecidableEq

namespace StatusCounts

/-- Items that either run or wait. -/
def ofRunning {α : Type} (isRunning : α → Bool) (items : List α) : StatusCounts :=
  { running := items.countP isRunning
    pending := items.length - items.countP isRunning
    failed := 0
    succeeded := 0
    terminating := 0 }

/-- The form in response bodies. -/
def toJson (counts : StatusCounts) : Json :=
  .obj [("running", .nat counts.running), ("pending", .nat counts.pending),
    ("failed", .nat counts.failed), ("succeeded", .nat counts.succeeded),
    ("terminating", .nat counts.terminating)]

end StatusCounts

/-! ## Pages -/

/-- Items that can be shown. -/
class Item (α : Type) extends HasProperties α where
  /-- The form in response bodies. -/
  toJson : α → Json

/-- A page of items. -/
structure ListPage (α : Type) where
  /-- The name of the items in response bodies. -/
  itemsKey : String
  /-- How many items the filters keep. -/
  matched : Nat
  /-- How many items there are. -/
  total : Nat
  /-- The items of the page. -/
  items : List α
  /-- All items by status, for kinds that have one. -/
  status : Option StatusCounts
  /-- Failures that left kinds out. -/
  warnings : List ServerFailure

variable {α ρ : Type}

/-- The form of a page in response bodies. -/
def ListPage.toJson [Item α] (page : ListPage α) : Json :=
  .obj ([("listMeta", .obj [("totalItems", .nat page.matched)]), ("total", .nat page.total),
      (page.itemsKey, .arr (page.items.map Item.toJson))]
    ++ Json.field? "status" (page.status.map StatusCounts.toJson)
    ++ [("errors", .arr (page.warnings.map ServerFailure.toJson))])

/-! ## Requests -/

/-- What a list view is asked for. -/
structure ListRequest where
  /-- Who is asked. -/
  lister : Lister
  /-- In which namespaces. -/
  wanted : Namespaces
  /-- Which items. -/
  query : Selection.Query
  /-- Within which bounds. -/
  scope : Scope
  /-- The greatest number of items on a page. -/
  pageCap : Nat

/-- The answer of a view, or the error in its place. -/
abbrev ViewResult := Except ResourceError

/-- The objects of a kind as values of its type. -/
def Lists.read [Resource ρ] (lists : Lists) : ViewResult (List ρ) :=
  (readAll (lists.objects (Resource.kind ρ))).mapError ResourceError.ofReadFailure

namespace ListRequest

/-- The page that is asked for, out of all items. -/
def page [Item α] (request : ListRequest) (itemsKey : String) (items : List α)
    (status : Option StatusCounts) (warnings : List ServerFailure) : ListPage α :=
  let selected := Selection.select items request.query request.pageCap
  { itemsKey, matched := selected.matched, total := selected.total, items := selected.items,
    status, warnings }

/-- Gathers kinds, and makes a page of what they hold. -/
def gather [Item α] (request : ListRequest) (kinds : List ResourceKind) (itemsKey : String)
    (status : List α → Option StatusCounts) (items : Lists → ViewResult (List α)) :
    Task Call (ViewResult (ListPage α)) := do
  let gathered ← request.lister.gather kinds request.wanted request.scope
  return do
    let lists ← gathered.drain.mapError ResourceError.server
    let all ← items lists
    return request.page itemsKey all (status all) lists.warnings

/-- A page of items that each show one object. -/
def single [Item α] [Resource ρ] (request : ListRequest) (itemsKey : String)
    (status : List α → Option StatusCounts) (toItem : ρ → α) :
    Task Call (ViewResult (ListPage α)) :=
  request.gather [Resource.kind ρ] itemsKey status fun lists =>
    lists.read.map (List.map toItem)

end ListRequest

/-- One object as a value of its type. -/
def Lister.fetchAs [Resource ρ] (lister : Lister) (inNamespace name : String) (scope : Scope) :
    Task Call (ViewResult ρ) := do
  let outcome ← lister.fetch (Resource.kind ρ) inNamespace name scope
  return do
    let object ← outcome.mapError ResourceError.server
    object.read.mapError ResourceError.ofReadFailure

end FleetDashboard
