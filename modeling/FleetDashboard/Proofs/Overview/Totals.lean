import Mathlib.Algebra.Order.BigOperators.Group.List
import Mathlib.Algebra.Ring.Int.Defs
import Mathlib.Data.List.Induction
import FleetDashboard.Overview.Members
import FleetDashboard.Proofs.Number.Sum

/-!
# What the overview adds up

The overview adds up what the member clusters report, one cluster after the other. A cluster that
reports nothing, or nothing that can be read, is counted with zeros: it is still named, but it
changes no sum and is not ready. Whole numbers are added up exactly as long as they stay in 64 bits
after each cluster; the first cluster that takes one of them out leaves nothing of the summary.

* `Capacity`, `ApiObject.capacity`: the eight numbers that are added up, for one cluster.
* `WholeCount`, `Countable`: those that are whole, and clusters over which they stay in 64 bits.
* `MemberSummary.Adds`, `MemberSummary.addCluster_cases`: one more cluster is added, or some count
  leaves the range.
* `MemberSummary.Sums`: a summary names and sums up some clusters, in their order.
* `MemberSummary.ofClusters_cases`: there is such a summary of the clusters that can be counted, and
  there is none of others.
-/

namespace FleetDashboard

/-! ## What a cluster contributes -/

/-- What a member cluster has and uses, in the numbers that are summed up. -/
structure Capacity where
  /-- Nodes. -/
  nodes : Int
  /-- Nodes that are ready. -/
  readyNodes : Int
  /-- Processors that can be used. -/
  cpu : Double
  /-- Processors that are used. -/
  usedCpu : Double
  /-- Memory that can be used. -/
  memory : Double
  /-- Memory that is used. -/
  usedMemory : Double
  /-- Pods that can be run. -/
  pods : Int
  /-- Pods that are run. -/
  usedPods : Int
deriving DecidableEq

namespace Capacity

/-- Nothing at all. -/
def zero : Capacity where
  nodes := 0
  readyNodes := 0
  cpu := .zero
  usedCpu := .zero
  memory := .zero
  usedMemory := .zero
  pods := 0
  usedPods := 0

/-- Each number added to its own sum. -/
def add (total more : Capacity) : Capacity where
  nodes := total.nodes + more.nodes
  readyNodes := total.readyNodes + more.readyNodes
  cpu := total.cpu.add more.cpu
  usedCpu := total.usedCpu.add more.usedCpu
  memory := total.memory.add more.memory
  usedMemory := total.usedMemory.add more.usedMemory
  pods := total.pods + more.pods
  usedPods := total.usedPods + more.usedPods

/-- The sum, one after the other. -/
def sum (capacities : List Capacity) : Capacity :=
  capacities.foldl add zero

/-- The sums in it are counted up from zero. -/
structure IsTally (total : Capacity) : Prop where
  cpu : total.cpu.IsTally
  usedCpu : total.usedCpu.IsTally
  memory : total.memory.IsTally
  usedMemory : total.usedMemory.IsTally

theorem isTally_zero : IsTally zero :=
  ⟨Double.isTally_zero, Double.isTally_zero, Double.isTally_zero, Double.isTally_zero⟩

theorem IsTally.add {total : Capacity} (h : total.IsTally) (more : Capacity) :
    (total.add more).IsTally :=
  ⟨h.cpu.add _, h.usedCpu.add _, h.memory.add _, h.usedMemory.add _⟩

theorem sum_concat (capacities : List Capacity) (more : Capacity) :
    sum (capacities ++ [more]) = (sum capacities).add more := by
  rw [sum, List.foldl_append]
  rfl

theorem isTally_sum (capacities : List Capacity) : (sum capacities).IsTally := by
  induction capacities using List.reverseRecOn with
  | nil => exact isTally_zero
  | append_singleton capacities more ih =>
    rw [sum_concat]
    exact ih.add more

end Capacity

namespace ClusterStatus

variable {status : ClusterStatus} {name : String}

/-- What a cluster has of a resource; nothing if it does not report its resources. -/
def allocatable (status : ClusterStatus) (name : String) : Double :=
  (status.resources.map fun report => amount report.allocatable name).getD .zero

/-- What a cluster uses of a resource; nothing if it does not report its resources. -/
def allocated (status : ClusterStatus) (name : String) : Double :=
  (status.resources.map fun report => amount report.allocated name).getD .zero

/-- What a cluster contributes to each sum. -/
def capacity (status : ClusterStatus) : Capacity where
  nodes := ((status.nodes.map NodeReport.total).getD 0).toInt
  readyNodes := ((status.nodes.map NodeReport.ready).getD 0).toInt
  cpu := status.allocatable "cpu"
  usedCpu := status.allocated "cpu"
  memory := status.allocatable "memory"
  usedMemory := status.allocated "memory"
  pods := (status.allocatable "pods").toInt64.toInt
  usedPods := (status.allocated "pods").toInt64.toInt

/-- Nothing, counted in whole numbers, is nothing. -/
theorem toInt64_zero : Double.zero.toInt64 = 0 := by decide

/-- A quantity that is absent or malformed is zero. -/
theorem amount_eq_zero {quantities : List (String × String)}
    (h : ∀ entry, quantities.find? (·.1 == name) = some entry → Quantity.parse? entry.2 = none) :
    amount quantities name = .zero := by
  unfold amount
  cases hfind : quantities.find? fun entry => entry.1 == name with
  | none => rfl
  | some entry =>
    rw [Option.map_some, Quantity.value, Option.bind_some, h entry hfind]
    rfl

end ClusterStatus

namespace ApiObject

variable {cluster : ApiObject}

/-- What a listed cluster contributes to each sum. -/
def capacity (cluster : ApiObject) : Capacity :=
  (ClusterStatus.ofField (Json.lookup "status" cluster.content)).capacity

/-- The cluster says that it is ready. -/
def saysReady (cluster : ApiObject) : Bool :=
  (ClusterStatus.ofField (Json.lookup "status" cluster.content)).isReady

/-- A cluster is ready if some condition of the type `Ready` has the status `True`. -/
theorem saysReady_iff :
    cluster.saysReady ↔
      ∃ condition ∈ (ClusterStatus.ofField (Json.lookup "status" cluster.content)).conditions,
        condition.conditionType = "Ready" ∧ condition.status = "True" := by
  simp only [saysReady, ClusterStatus.isReady, List.any_eq_true, Bool.and_eq_true, beq_iff_eq]

/-- A cluster without a status, or with one that cannot be read, contributes nothing and is not
ready. -/
theorem of_status_eq_none
    (h : (Json.lookup "status" cluster.content).bind ClusterStatus.ofJson? = none) :
    cluster.capacity = .zero ∧ cluster.saysReady = false := by
  rw [capacity, saysReady, ClusterStatus.ofField, h]
  exact ⟨rfl, rfl⟩

end ApiObject

/-! ## Whole numbers -/

/-- What the overview counts in whole numbers. -/
inductive WholeCount where
  | nodes
  | readyNodes
  | pods
  | usedPods
deriving DecidableEq

namespace WholeCount

variable (count : WholeCount) (clusters : List ApiObject)

/-- The number in question, among those that are summed up. -/
def of : WholeCount → Capacity → Int
  | .nodes => Capacity.nodes
  | .readyNodes => Capacity.readyNodes
  | .pods => Capacity.pods
  | .usedPods => Capacity.usedPods

/-- The exact sum of what clusters report. -/
def exact : Int :=
  (clusters.map fun cluster => count.of cluster.capacity).sum

@[simp]
theorem of_add (total more : Capacity) :
    count.of (total.add more) = count.of total + count.of more := by
  cases count <;> rfl

@[simp]
theorem exact_concat (cluster : ApiObject) :
    count.exact (clusters ++ [cluster]) = count.exact clusters + count.of cluster.capacity := by
  simp [exact]

/-- The whole numbers among the sums are the exact sums. -/
theorem of_sum :
    count.of (Capacity.sum (clusters.map ApiObject.capacity)) = count.exact clusters := by
  induction clusters using List.reverseRecOn with
  | nil => cases count <;> rfl
  | append_singleton clusters cluster ih =>
    rw [List.map_append, List.map_singleton, Capacity.sum_concat, of_add, ih, exact_concat]

end WholeCount

/-- Clusters can be counted: up to each of them, what they report adds up to 64-bit integers. -/
def Countable (clusters : List ApiObject) : Prop :=
  ∀ done, done <+: clusters → ∀ count : WholeCount, IsInt64 (count.exact done)

theorem countable_nil : Countable [] := by
  intro done hdone count
  rw [List.prefix_nil.1 hdone]
  exact isInt64_toInt 0

/-- With one more cluster they can be counted if they could before and the last sums are in the
range. -/
theorem countable_concat {clusters : List ApiObject} {cluster : ApiObject} :
    Countable (clusters ++ [cluster]) ↔
      Countable clusters ∧ ∀ count : WholeCount, IsInt64 (count.exact (clusters ++ [cluster])) := by
  constructor
  · intro h
    refine ⟨fun done hdone => h done (hdone.trans (List.prefix_append _ _)), ?_⟩
    exact h _ List.prefix_rfl
  · rintro ⟨hbefore, hlast⟩ done hdone
    rcases List.prefix_concat_iff.1 hdone with rfl | hdone
    · exact hlast
    · exact hbefore done hdone

/-! ## Adding clusters up -/

namespace MemberSummary

variable {summary : MemberSummary} {listed done : List ApiObject} {warnings : List ServerFailure}

/-- The sums of a summary. -/
def totals (summary : MemberSummary) : Capacity where
  nodes := summary.nodes.toInt
  readyNodes := summary.readyNodes.toInt
  cpu := summary.cpu
  usedCpu := summary.usedCpu
  memory := summary.memory
  usedMemory := summary.usedMemory
  pods := summary.pods.toInt
  usedPods := summary.usedPods.toInt

/-- What a summary counts is counted in 64 bits. -/
theorem isInt64_of_totals (summary : MemberSummary) (count : WholeCount) :
    IsInt64 (count.of summary.totals) := by
  cases count <;> exact isInt64_toInt _

/-- Nodes are added exactly, and nothing else is, unless one of the sums leaves the range. A cluster
that does not report its nodes leaves the sums alone, which is the same as adding zero. -/
theorem addNodes_cases (summary : MemberSummary) (status : ClusterStatus) :
    let nodeSum := summary.nodes.toInt + status.capacity.nodes
    let readySum := summary.readyNodes.toInt + status.capacity.readyNodes
    (∃ nodes readyNodes,
        summary.addNodes status.nodes = some { summary with nodes, readyNodes } ∧
          nodes.toInt = nodeSum ∧ readyNodes.toInt = readySum) ∨
      summary.addNodes status.nodes = none ∧ (¬ IsInt64 nodeSum ∨ ¬ IsInt64 readySum) := by
  obtain ⟨nodes, resources, conditions⟩ := status
  cases nodes with
  | none =>
    refine Or.inl ⟨summary.nodes, summary.readyNodes, rfl, ?_, ?_⟩
    · exact (Int.add_zero _).symm
    · exact (Int.add_zero _).symm
  | some report =>
    exact plus?_both_cases (fun nodes readyNodes => { summary with nodes, readyNodes })
      summary.nodes report.total summary.readyNodes report.ready

/-- Processors, memory and pods are added, and nothing else is, unless the pods leave the range. A
cluster that does not report its resources leaves the sums alone. That is the same as adding zero,
because a sum that is counted up from zero is not minus zero. -/
theorem addResources_cases (h : summary.totals.IsTally) (status : ClusterStatus) :
    let podSum := summary.pods.toInt + status.capacity.pods
    let usedSum := summary.usedPods.toInt + status.capacity.usedPods
    (∃ pods usedPods, summary.addResources status.resources =
          some { summary with
            cpu := summary.cpu.add status.capacity.cpu
            usedCpu := summary.usedCpu.add status.capacity.usedCpu
            memory := summary.memory.add status.capacity.memory
            usedMemory := summary.usedMemory.add status.capacity.usedMemory
            pods
            usedPods } ∧
        pods.toInt = podSum ∧ usedPods.toInt = usedSum) ∨
      summary.addResources status.resources = none ∧ (¬ IsInt64 podSum ∨ ¬ IsInt64 usedSum) := by
  obtain ⟨nodes, resources, conditions⟩ := status
  cases resources with
  | none =>
    -- only here it matters that no sum is minus zero
    have hcpu : summary.cpu.add .zero = summary.cpu := h.cpu.add_zero
    have husedCpu : summary.usedCpu.add .zero = summary.usedCpu := h.usedCpu.add_zero
    have hmemory : summary.memory.add .zero = summary.memory := h.memory.add_zero
    have husedMemory : summary.usedMemory.add .zero = summary.usedMemory := h.usedMemory.add_zero
    refine Or.inl ⟨summary.pods, summary.usedPods, ?_, ?_, ?_⟩
    · simp only [addResources, ClusterStatus.capacity, ClusterStatus.allocatable,
        ClusterStatus.allocated, Option.map_none, Option.getD_none, hcpu, husedCpu, hmemory,
        husedMemory]
    · simp [ClusterStatus.capacity, ClusterStatus.allocatable, ClusterStatus.toInt64_zero]
    · simp [ClusterStatus.capacity, ClusterStatus.allocated, ClusterStatus.toInt64_zero]
  | some report =>
    let can := ClusterStatus.amount report.allocatable
    let used := ClusterStatus.amount report.allocated
    exact plus?_both_cases (fun pods usedPods =>
        { summary with
          cpu := summary.cpu.add (can "cpu")
          usedCpu := summary.usedCpu.add (used "cpu")
          memory := summary.memory.add (can "memory")
          usedMemory := summary.usedMemory.add (used "memory")
          pods
          usedPods })
      summary.pods (can "pods").toInt64 summary.usedPods (used "pods").toInt64

/-- A summary has one more cluster than another one. -/
structure Adds (summary : MemberSummary) (cluster : ApiObject) (next : MemberSummary) : Prop where
  /-- Each number has grown by what the cluster contributes to it. -/
  totals : next.totals = summary.totals.add cluster.capacity
  /-- The cluster is named. -/
  clusters : next.clusters = summary.clusters ++ [cluster.name]
  /-- It is ready if it says so. -/
  ready : next.ready =
    if cluster.saysReady then summary.ready ++ [cluster.name] else summary.ready
  /-- Which ones are registered is as before. -/
  registered : next.registered = summary.registered
  /-- So is what went wrong. -/
  warnings : next.warnings = summary.warnings

/-- A cluster is added, unless it takes a count out of its range. -/
theorem addCluster_cases (h : summary.totals.IsTally) (cluster : ApiObject) :
    (∃ next, summary.addCluster cluster = some next ∧ summary.Adds cluster next) ∨
      summary.addCluster cluster = none ∧
        ∃ count : WholeCount, ¬ IsInt64 (count.of (summary.totals.add cluster.capacity)) := by
  have hcapacity : cluster.capacity =
      (ClusterStatus.ofField (Json.lookup "status" cluster.content)).capacity := rfl
  have hready : cluster.saysReady =
      (ClusterStatus.ofField (Json.lookup "status" cluster.content)).isReady := rfl
  rw [addCluster, add]
  generalize ClusterStatus.ofField (Json.lookup "status" cluster.content) = status at *
  -- resources are added to what has come of the nodes, which leaves the other sums as they were
  rcases summary.addNodes_cases status with ⟨nodes, readyNodes, hadded, hnodes, hreadyNodes⟩ |
    ⟨hnone, hout⟩
  · have htally : { summary with nodes, readyNodes }.totals.IsTally :=
      ⟨h.cpu, h.usedCpu, h.memory, h.usedMemory⟩
    rcases addResources_cases htally status with ⟨pods, usedPods, hsummed, hpods, husedPods⟩ |
      ⟨hnone, hout⟩
    · simp only [hadded, hsummed, Option.bind_eq_bind, Option.bind_some, Option.pure_def]
      refine Or.inl ⟨_, rfl, ?_, rfl, ?_, rfl, rfl⟩
      · dsimp only at hpods husedPods
        simp only [totals, Capacity.add, hcapacity, hnodes, hreadyNodes, hpods, husedPods]
      · rw [hready]
    · simp only [hadded, hnone, hcapacity, Option.bind_eq_bind, Option.bind_some, Option.bind_none]
      rcases hout with hout | hout
      · exact Or.inr ⟨trivial, .pods, hout⟩
      · exact Or.inr ⟨trivial, .usedPods, hout⟩
  · simp only [hnone, hcapacity, Option.bind_eq_bind, Option.bind_none]
    rcases hout with hout | hout
    · exact Or.inr ⟨trivial, .nodes, hout⟩
    · exact Or.inr ⟨trivial, .readyNodes, hout⟩

/-- The summary names some clusters and sums up what they contribute, in their order, and tells
which of them are ready. All that are listed are registered, unless there are warnings. -/
structure Sums (summary : MemberSummary) (listed done : List ApiObject)
    (warnings : List ServerFailure) : Prop where
  /-- All clusters are named. -/
  clusters : summary.clusters = done.map ApiObject.name
  /-- Those are ready that say so. -/
  ready : summary.ready = (done.filter ApiObject.saysReady).map ApiObject.name
  /-- The names of all listed clusters, if nothing is missing. -/
  registered : summary.registered =
    if warnings.isEmpty then some (listed.map ApiObject.name) else none
  /-- What went wrong. -/
  warnings : summary.warnings = warnings
  /-- Each number is the sum of what the clusters contribute to it. -/
  totals : summary.totals = Capacity.sum (done.map ApiObject.capacity)

/-- No cluster is named and summed up at the start. -/
theorem Sums.start (listed : List ApiObject) (warnings : List ServerFailure) :
    (start warnings (if warnings.isEmpty then some (listed.map ApiObject.name) else none)).Sums
      listed [] warnings :=
  ⟨rfl, rfl, rfl, rfl, rfl⟩

/-- The sums so far are counted up from zero, so none of them is minus zero. -/
theorem Sums.isTally (h : summary.Sums listed done warnings) : summary.totals.IsTally :=
  h.totals ▸ Capacity.isTally_sum _

/-- With one more cluster, one more is named and summed up. -/
theorem Sums.adds (h : summary.Sums listed done warnings) {cluster : ApiObject}
    {next : MemberSummary} (hadds : summary.Adds cluster next) :
    next.Sums listed (done ++ [cluster]) warnings where
  clusters := by rw [hadds.clusters, h.clusters, List.map_append, List.map_singleton]
  ready := by
    rw [hadds.ready, h.ready, List.filter_append, List.map_append, List.filter_cons,
      List.filter_nil]
    cases cluster.saysReady with
    | true => rfl
    | false => exact (List.append_nil _).symm
  registered := hadds.registered.trans h.registered
  warnings := hadds.warnings.trans h.warnings
  totals := by
    rw [hadds.totals, h.totals, List.map_append, List.map_singleton, Capacity.sum_concat]

/-- What a summary counts is the exact sum over its clusters. -/
theorem Sums.of_totals (h : summary.Sums listed done warnings) (count : WholeCount) :
    count.of summary.totals = count.exact done := by
  rw [h.totals, WholeCount.of_sum]

/-- Clusters that can be counted are named and summed up; with others the work breaks off. -/
theorem ofClusters_cases (listed : List ApiObject) (warnings : List ServerFailure)
    (clusters : List ApiObject) :
    (∃ summary, ofClusters listed warnings clusters = some summary ∧
        summary.Sums listed clusters warnings ∧ Countable clusters) ∨
      ofClusters listed warnings clusters = none ∧ ¬ Countable clusters := by
  -- the clusters are added one behind the other, so the last one is added to the sums of the others
  induction clusters using List.reverseRecOn with
  | nil => exact Or.inl ⟨_, rfl, .start listed warnings, countable_nil⟩
  | append_singleton clusters cluster ih =>
    have hlast : ofClusters listed warnings (clusters ++ [cluster]) =
        (ofClusters listed warnings clusters).bind (addCluster · cluster) := by
      simp [ofClusters]
    rcases ih with ⟨summary, hsummary, hsums, hcountable⟩ | ⟨hnone, huncountable⟩
    · rw [hlast, hsummary, Option.bind_some]
      rcases addCluster_cases hsums.isTally cluster with ⟨next, hnext, hadds⟩ | ⟨hnone, count, hout⟩
      · -- the summary counts in 64 bits, and what it counts are the exact sums up to here
        have hmore := hsums.adds hadds
        refine Or.inl ⟨next, hnext, hmore, countable_concat.2 ⟨hcountable, fun count => ?_⟩⟩
        rw [← hmore.of_totals]
        exact next.isInt64_of_totals count
      · refine Or.inr ⟨hnone, fun hmore => hout ?_⟩
        rw [WholeCount.of_add, hsums.of_totals, ← WholeCount.exact_concat]
        exact (countable_concat.1 hmore).2 count
    · rw [hlast, hnone]
      exact Or.inr ⟨rfl, fun hmore => huncountable (countable_concat.1 hmore).1⟩

/-- There is a summary exactly of clusters that can be counted. -/
theorem exists_ofClusters_iff (listed : List ApiObject) (warnings : List ServerFailure)
    {clusters : List ApiObject} :
    (∃ summary, ofClusters listed warnings clusters = some summary) ↔ Countable clusters := by
  rcases ofClusters_cases listed warnings clusters with ⟨summary, hsummary, -, hcountable⟩ |
    ⟨hnone, huncountable⟩
  · exact iff_of_true ⟨summary, hsummary⟩ hcountable
  · refine iff_of_false ?_ huncountable
    rintro ⟨summary, hsummary⟩
    rw [hnone] at hsummary
    cases hsummary

theorem ofClusters_eq_none_iff {clusters : List ApiObject} :
    ofClusters listed warnings clusters = none ↔ ¬ Countable clusters := by
  rw [← exists_ofClusters_iff listed warnings, Option.eq_none_iff_forall_ne_some, not_exists]

/-- It names and sums up those clusters. -/
theorem sums_of_ofClusters {clusters : List ApiObject}
    (h : ofClusters listed warnings clusters = some summary) :
    summary.Sums listed clusters warnings := by
  rcases ofClusters_cases listed warnings clusters with ⟨other, hother, hsums, -⟩ | ⟨hnone, -⟩
  · rw [h, Option.some.injEq] at hother
    rwa [hother]
  · rw [h] at hnone
    cases hnone

end MemberSummary

/-- Whether clusters can be counted is found out by counting them. -/
instance (clusters : List ApiObject) : Decidable (Countable clusters) :=
  decidable_of_iff ((MemberSummary.ofClusters [] [] clusters).isSome = true) <| by
    rw [Option.isSome_iff_exists, MemberSummary.exists_ofClusters_iff]

end FleetDashboard
