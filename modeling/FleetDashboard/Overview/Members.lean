import FleetDashboard.Access.Gate
import FleetDashboard.Number.Count
import FleetDashboard.Overview.ClusterStatus
import FleetDashboard.Views.Basic

/-!
# Member clusters in the overview

Capacity and use, summed over the member clusters that the caller may access. The names of all
registered clusters are told apart, and only when the listing was complete. Nodes and pods are
counted in 64 bits, and nothing is left of the summary once a cluster makes a count leave them.

* `MemberSummary.add`: one more cluster.
* `MemberSummary.ofClusters`: the sums over some clusters.
* `memberSummary`: the clusters that are listed, and the sums over those that the caller may access.
-/

namespace FleetDashboard

/-- The sums over member clusters. -/
structure MemberSummary where
  /-- Nodes. -/
  nodes : Int64
  /-- Nodes that are ready. -/
  readyNodes : Int64
  /-- Processors that can be used. -/
  cpu : Double
  /-- Processors that are used. -/
  usedCpu : Double
  /-- Memory that can be used. -/
  memory : Double
  /-- Memory that is used. -/
  usedMemory : Double
  /-- Pods that can be run. -/
  pods : Int64
  /-- Pods that are run. -/
  usedPods : Int64
  /-- The names of the clusters. -/
  clusters : List String
  /-- Failures that left clusters out. -/
  warnings : List ServerFailure
  /-- The names of all registered clusters, when the listing was complete. -/
  registered : Option (List String)
  /-- The names of the clusters that are ready. -/
  ready : List String

namespace MemberSummary

/-- No clusters. -/
def start (warnings : List ServerFailure) (registered : Option (List String)) : MemberSummary :=
  { nodes := 0, readyNodes := 0, cpu := .zero, usedCpu := .zero, memory := .zero,
    usedMemory := .zero, pods := 0, usedPods := 0, clusters := [], warnings, registered,
    ready := [] }

/-- Adds what a cluster reports about its nodes, as far as the nodes can be counted. -/
def addNodes (summary : MemberSummary) : Option NodeReport → Option MemberSummary
  | none => some summary
  | some report => do
    return { summary with
      nodes := ← plus? summary.nodes report.total
      readyNodes := ← plus? summary.readyNodes report.ready }

/-- Adds what a cluster reports about its resources, as far as the pods can be counted. -/
def addResources (summary : MemberSummary) : Option ResourceReport → Option MemberSummary
  | none => some summary
  | some report => do
    let can := ClusterStatus.amount report.allocatable
    let used := ClusterStatus.amount report.allocated
    return { summary with
      cpu := summary.cpu.add (can "cpu")
      usedCpu := summary.usedCpu.add (used "cpu")
      memory := summary.memory.add (can "memory")
      usedMemory := summary.usedMemory.add (used "memory")
      pods := ← plus? summary.pods (can "pods").toInt64
      usedPods := ← plus? summary.usedPods (used "pods").toInt64 }

/-- One more cluster. -/
def add (summary : MemberSummary) (name : String) (status : ClusterStatus) :
    Option MemberSummary := do
  let counted ← summary.addNodes status.nodes
  let summed ← counted.addResources status.resources
  return { summed with
    clusters := summed.clusters ++ [name]
    ready := if status.isReady then summed.ready ++ [name] else summed.ready }

/-- One more listed cluster. -/
def addCluster (summary : MemberSummary) (cluster : ApiObject) : Option MemberSummary :=
  summary.add cluster.name (.ofField (Json.lookup "status" cluster.content))

/-- The sums over some clusters among all that are listed, if everything can be counted. All that
are listed are registered, unless there are warnings. -/
def ofClusters (listed : List ApiObject) (warnings : List ServerFailure)
    (clusters : List ApiObject) : Option MemberSummary :=
  let registered := if warnings.isEmpty then some (listed.map ApiObject.name) else none
  clusters.foldlM addCluster (start warnings registered)

/-- The form in response bodies. -/
def toJson (summary : MemberSummary) : Json :=
  .obj [
    ("nodeSummary", .obj [("totalNum", .int summary.nodes.toInt),
      ("readyNum", .int summary.readyNodes.toInt)]),
    ("cpuSummary", .obj [("totalCpu", .double summary.cpu),
      ("allocatedCpu", .double summary.usedCpu)]),
    ("memorySummary", .obj [("totalMemory", .double summary.memory),
      ("allocatedMemory", .double summary.usedMemory)]),
    ("podSummary", .obj [("totalPod", .int summary.pods.toInt),
      ("allocatedPod", .int summary.usedPods.toInt)]),
    ("clusters", .strings summary.clusters),
    ("errors", .arr (summary.warnings.map ServerFailure.toJson))]

end MemberSummary

/-- The member clusters that are listed, and the sums over those that the caller may access. There
are none if a count leaves the 64 bits: whoever asked for the summary breaks off there. -/
def memberSummary (lister : Lister) (gate : AccessGate) (user : Option String) (scope : Scope) :
    Task Call (ViewResult (Option MemberSummary)) := do
  let gathered ← lister.gather [.cluster] .all scope
  match gathered.drain with
  | .error failure => return .error (.server failure)
  | .ok lists =>
    let all := lists.objects .cluster
    let accessible ← gate.filterAccessible user all ApiObject.name scope
    return .ok (MemberSummary.ofClusters all lists.warnings accessible)

end FleetDashboard
