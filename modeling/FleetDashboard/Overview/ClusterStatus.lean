import FleetDashboard.Json.Basic
import FleetDashboard.Quantity

/-!
# The status of a member cluster

What a member reports about itself: its nodes, its resources and its conditions. The report is read
as a whole; one malformed part makes it count as empty.
-/

namespace FleetDashboard

/-- The nodes of a cluster. -/
structure NodeReport where
  /-- How many there are. -/
  total : Int64
  /-- How many of them are ready. -/
  ready : Int64
deriving DecidableEq

/-- The resources of a cluster, as quantities by name. -/
structure ResourceReport where
  /-- What can be used. -/
  allocatable : List (String × String)
  /-- What is used. -/
  allocated : List (String × String)
deriving DecidableEq

/-- A condition of a cluster. -/
structure ClusterCondition where
  /-- What it is about. -/
  conditionType : String
  /-- Whether it holds. -/
  status : String
deriving DecidableEq

/-- What a cluster reports about itself. -/
structure ClusterStatus where
  /-- Its nodes. -/
  nodes : Option NodeReport
  /-- Its resources. -/
  resources : Option ResourceReport
  /-- Its conditions. -/
  conditions : List ClusterCondition
deriving DecidableEq

namespace ClusterStatus

/-- Nothing is reported. -/
def empty : ClusterStatus :=
  { nodes := none, resources := none, conditions := [] }

/-- Whether some condition says that the cluster is ready. -/
def isReady (status : ClusterStatus) : Bool :=
  status.conditions.any fun c => c.conditionType == "Ready" && c.status == "True"

/-! ## Reading -/

/-- A field of a report; a null field does not count as absent. -/
def part? {α : Type} (fields : List (String × Json)) (name : String) (absent : α)
    (read : Json → Option α) : Option α :=
  match Json.lookup name fields with
  | some value => read value
  | none => some absent

/-- A value that may be null. -/
def nullable? {α : Type} (read : Json → Option α) : Json → Option (Option α)
  | .null => some none
  | j => (read j).map some

/-- A whole number of 64 bits. -/
def int64? : Json → Option Int64
  | .int n =>
    if -9223372036854775808 ≤ n && n < 9223372036854775808 then some (Int64.ofInt n) else none
  | _ => none

/-- The nodes. -/
def nodes? (j : Json) : Option NodeReport := do
  let fields ← j.record? ["totalNum", "readyNum"]
  return {
    total := ← part? fields "totalNum" 0 int64?
    ready := ← part? fields "readyNum" 0 int64? }

/-- Quantities by name. -/
def quantities? : Json → Option (List (String × String))
  | .obj fields => fields.mapM fun (name, value) => value.str?.map fun quantity => (name, quantity)
  | _ => none

/-- The resources. -/
def resources? (j : Json) : Option ResourceReport := do
  let fields ← j.record? ["allocatable", "allocated"]
  return {
    allocatable := ← part? fields "allocatable" [] quantities?
    allocated := ← part? fields "allocated" [] quantities? }

/-- A condition; both of its parts are needed. -/
def condition? (j : Json) : Option ClusterCondition := do
  let fields ← j.record? ["type", "status"]
  return {
    conditionType := ← (← Json.lookup "type" fields).str?
    status := ← (← Json.lookup "status" fields).str? }

/-- The conditions. -/
def conditions? : Json → Option (List ClusterCondition)
  | .arr items => items.mapM condition?
  | _ => none

/-- A whole report. -/
def ofJson? (j : Json) : Option ClusterStatus := do
  let fields ← j.record? ["nodeSummary", "resourceSummary", "conditions"]
  return {
    nodes := ← part? fields "nodeSummary" none (nullable? nodes?)
    resources := ← part? fields "resourceSummary" none (nullable? resources?)
    conditions := ← part? fields "conditions" [] conditions? }

/-- The report in a field, if it is there; a malformed one counts as empty. -/
def ofField (field : Option Json) : ClusterStatus :=
  (field.bind ofJson?).getD empty

/-- The quantity of a resource as a number. -/
def amount (quantities : List (String × String)) (name : String) : Double :=
  Quantity.value ((quantities.find? fun entry => entry.1 == name).map (·.2))

end ClusterStatus

end FleetDashboard
