import Mathlib.Algebra.Order.BigOperators.Group.List
import Mathlib.Algebra.Order.Ring.Nat
import Mathlib.Data.List.Nodup
import FleetDashboard.Views.Deployments

/-!
# Pods behind deployments and replica sets

A replica set shows the pods that it controls, a deployment those of the replica sets that it
controls. Between objects as Kubernetes keeps them, both show the same pods: what a deployment
counts in a phase is what its replica sets count together, and no pod is counted for two
deployments.

An object names the unique ids of its controllers. One that has a single controller is controlled by
one object at most among objects with different ids (`countP_isControlledBy_le_one`), however many
of them have no id at all. So it is for pods among replica sets and for replica sets among
deployments, and so it is for pods among deployments, the one that counts a pod being the one that
controls the pod's replica set (`WellOwned.countP_countsPod_le_one`). What is left is to count pairs
by either side (`countP_any_eq_sum`).

* `Metadata.controllers`: the unique ids of an object's controllers.
* `WellOwned`: objects as Kubernetes keeps them.
* `PodPhase`, `PodCounts.count`, `PodCounts.total`: the counts of an item by phase and in all.
* `CountsEachOnce`, `WellOwned.countsEachOnce`: deployments and replica sets count the same pods,
  each of them once.
-/

namespace FleetDashboard

/-! ## Counting pairs -/

section Pairs

variable {α β : Type} {xs : List α} {ys : List β}

/-- Of two properties that exclude each other, one or the other is counted by counting both. -/
theorem countP_or_of_disjoint {p q : β → Bool} (h : ∀ y ∈ ys, p y = true → q y = false) :
    ys.countP (fun y => p y || q y) = ys.countP p + ys.countP q := by
  induction ys with
  | nil => rfl
  | cons y rest ih =>
    have hrest := ih fun other hother => h other (List.mem_cons_of_mem _ hother)
    simp only [List.countP_cons, hrest]
    cases hp : p y with
    | false => simp [Nat.add_assoc]
    | true =>
      simp only [h y List.mem_cons_self hp, Bool.true_or, if_true, Bool.false_eq_true, if_false]
      omega

/-- If no `y` makes a pair with two of the `xs`, then those that make a pair with some `x` are
counted by counting them for every `x`. -/
theorem countP_any_eq_sum (pairs : α → β → Bool)
    (h : ∀ y ∈ ys, xs.countP (fun x => pairs x y) ≤ 1) :
    ys.countP (fun y => xs.any fun x => pairs x y) = (xs.map fun x => ys.countP (pairs x)).sum := by
  induction xs with
  | nil => simp
  | cons x rest ih =>
    simp only [List.countP_cons] at h
    have hdisjoint : ∀ y ∈ ys, pairs x y = true → (rest.any fun x => pairs x y) = false := by
      intro y hy hpair
      have hcount := h y hy
      rw [if_pos hpair] at hcount
      have hnone : rest.countP (fun x => pairs x y) = 0 := by omega
      simpa [List.countP_eq_zero] using hnone
    calc ys.countP (fun y => (x :: rest).any fun x => pairs x y)
      _ = ys.countP (pairs x) + ys.countP (fun y => rest.any fun x => pairs x y) :=
        countP_or_of_disjoint hdisjoint
      _ = ((x :: rest).map fun x => ys.countP (pairs x)).sum := by
        rw [ih fun y hy => Nat.le_of_add_right_le (h y hy), List.map_cons, List.sum_cons]

/-- If the `xs` have different images, one of them at most has a given one. -/
theorem countP_beq_le_one [BEq β] [LawfulBEq β] {f : α → β} (h : (xs.map f).Nodup) (y : β) :
    xs.countP (fun x => y == f x) ≤ 1 := by
  have hcount : xs.countP (fun x => y == f x) = (xs.map f).count y := by
    rw [List.count, List.countP_map]
    refine List.countP_congr fun x _ => ?_
    rw [beq_iff_eq, Function.comp_apply, beq_iff_eq]
    exact eq_comm
  rw [hcount]
  exact List.nodup_iff_count_le_one.1 h y

/-- If no `y` makes a pair with two of the `xs`, then no two of these make a pair with the same. -/
theorem pairwise_disjoint_filter (pairs : α → β → Bool)
    (h : ∀ y ∈ ys, xs.countP (fun x => pairs x y) ≤ 1) :
    xs.Pairwise fun first second =>
      (ys.filter (pairs first)).Disjoint (ys.filter (pairs second)) := by
  induction xs with
  | nil => exact List.Pairwise.nil
  | cons x rest ih =>
    simp only [List.countP_cons] at h
    refine List.pairwise_cons.2 ⟨fun second hsecond y hy hy' => ?_, ih fun y hy => ?_⟩
    · obtain ⟨hmem, hpair⟩ := List.mem_filter.1 hy
      have hcount := h y hmem
      rw [if_pos hpair] at hcount
      have hpos : 0 < rest.countP fun x => pairs x y :=
        List.countP_pos_iff.2 ⟨second, hsecond, (List.mem_filter.1 hy').2⟩
      omega
    · exact Nat.le_of_add_right_le (h y hy)

end Pairs

/-! ## Controllers -/

namespace Metadata

variable {metadata : Metadata} {uid? : Option String}

/-- The unique ids of the objects that manage an object. -/
def controllers (metadata : Metadata) : List String :=
  ((metadata.owners.getD []).filter fun owner => owner.controller == some true).map (·.uid)

theorem isControlledBy_iff :
    metadata.isControlledBy uid? = true ↔ ∃ uid ∈ metadata.controllers, uid? = some uid := by
  cases uid? with
  | none => simp [isControlledBy]
  | some uid => simp [isControlledBy, controllers, and_assoc]

/-- Among objects with different unique ids, one at most controls an object with a single
controller. -/
theorem countP_isControlledBy_le_one {α : Type} {uidOf : α → Option String} {objects : List α}
    (hdistinct : (objects.filterMap uidOf).Nodup) (hsingle : metadata.controllers.length ≤ 1) :
    objects.countP (fun object => metadata.isControlledBy (uidOf object)) ≤ 1 := by
  match hcontrollers : metadata.controllers, hsingle with
  | [], _ =>
    have hnone : objects.countP (fun object => metadata.isControlledBy (uidOf object)) = 0 := by
      rw [List.countP_eq_zero]
      intro object _ hcontrolled
      obtain ⟨uid, huid, -⟩ := isControlledBy_iff.1 hcontrolled
      rw [hcontrollers] at huid
      cases huid
    omega
  | [controller], _ =>
    -- it is the objects with the controller's id that count, and ids differ
    have hcount : objects.countP (fun object => metadata.isControlledBy (uidOf object)) =
        (objects.filterMap uidOf).count controller := by
      rw [List.count_filterMap]
      refine List.countP_congr fun object _ => ?_
      rw [isControlledBy_iff, hcontrollers, beq_iff_eq]
      simp
    rw [hcount]
    exact List.nodup_iff_count_le_one.1 hdistinct controller

end Metadata

/-- Objects as Kubernetes keeps them: the unique ids that there are differ, and every object has one
controller at most. -/
structure WellOwned (deployments : List Deployment) (sets : List ReplicaSet) (pods : List Pod) :
    Prop where
  /-- Deployments have different ids. -/
  deploymentIds : (deployments.filterMap (·.metadata.uid)).Nodup
  /-- Replica sets have different ids. -/
  setIds : (sets.filterMap (·.metadata.uid)).Nodup
  /-- A replica set has one controller at most. -/
  ofSet : ∀ set ∈ sets, set.metadata.controllers.length ≤ 1
  /-- A pod has one controller at most. -/
  ofPod : ∀ pod ∈ pods, pod.metadata.controllers.length ≤ 1

/-! ## Counts -/

/-- The phases by which pods are counted. -/
inductive PodPhase where
  | running
  | pending
  | failed
  | succeeded
deriving DecidableEq

namespace PodPhase

/-- The text of a phase. -/
def text : PodPhase → String
  | .running => "Running"
  | .pending => "Pending"
  | .failed => "Failed"
  | .succeeded => "Succeeded"

/-- All of the phases. -/
def all : List PodPhase :=
  [.running, .pending, .failed, .succeeded]

/-- Whether a pod is counted in a phase. -/
def covers (phase : PodPhase) (pod : Pod) : Bool :=
  pod.phase? == some phase.text

/-- A pod is counted in one phase at most. -/
theorem countP_covers_le_one (pod : Pod) : all.countP (fun phase => phase.covers pod) ≤ 1 := by
  have hdistinct : (all.map fun phase => some phase.text).Nodup := by decide
  exact countP_beq_le_one hdistinct pod.phase?

end PodPhase

namespace PodCounts

/-- How many pods are counted in a phase. -/
def count (counts : PodCounts) : PodPhase → Nat
  | .running => counts.running
  | .pending => counts.pending
  | .failed => counts.failed
  | .succeeded => counts.succeeded

/-- How many pods are counted. -/
def total (counts : PodCounts) : Nat :=
  (PodPhase.all.map counts.count).sum

theorem count_ofPods (current : Int) (desired : Option Int) (pods : List Pod) (phase : PodPhase) :
    (ofPods current desired pods).count phase = pods.countP phase.covers := by
  cases phase <;> rfl

/-- Of some pods, those in a phase may be taken first. -/
theorem count_ofPods_filter (current : Int) (desired : Option Int) (stays : Pod → Bool)
    (pods : List Pod) (phase : PodPhase) :
    (ofPods current desired (pods.filter stays)).count phase =
      (pods.filter phase.covers).countP stays := by
  rw [count_ofPods, List.countP_filter, List.countP_filter]
  simp only [Bool.and_comm]

/-- No more pods are counted than there are, because none is counted in two phases. -/
theorem total_ofPods_le (current : Int) (desired : Option Int) (pods : List Pod) :
    (ofPods current desired pods).total ≤ pods.length := by
  have hsum : (ofPods current desired pods).total =
      pods.countP fun pod => PodPhase.all.any fun phase => phase.covers pod :=
    (countP_any_eq_sum PodPhase.covers fun pod _ => PodPhase.countP_covers_le_one pod).symm
  rw [hsum]
  exact List.countP_le_length

end PodCounts

/-! ## The same pods, each once -/

variable {deployments : List Deployment} {sets : List ReplicaSet} {pods : List Pod}

/-- Whether a deployment counts a pod. -/
def DeploymentItem.countsPod (sets : List ReplicaSet) (deployment : Deployment) (pod : Pod) :
    Bool :=
  (setsOf deployment.metadata.uid sets).any pod.metadata.isControlledBy

/-- Deployments and replica sets count the same pods, each of them once. -/
structure CountsEachOnce (deployments : List Deployment) (sets : List ReplicaSet)
    (pods : List Pod) : Prop where
  /-- A deployment counts in every phase what its replica sets count together. -/
  sums : ∀ deployment ∈ deployments, ∀ phase,
    (DeploymentItem.ofDeployment sets pods deployment).pods.count phase =
      ((sets.filter fun set => set.metadata.isControlledBy deployment.metadata.uid).map fun set =>
        (ReplicaSetItem.ofReplicaSet pods set).pods.count phase).sum
  /-- No pod is counted for two deployments. -/
  once : deployments.Pairwise fun first second =>
    (DeploymentItem.podsOfAny (DeploymentItem.setsOf first.metadata.uid sets) pods).Disjoint
      (DeploymentItem.podsOfAny (DeploymentItem.setsOf second.metadata.uid sets) pods)
  /-- No more pods are counted than there are. -/
  total : (deployments.map fun deployment =>
    (DeploymentItem.ofDeployment sets pods deployment).pods.total).sum ≤ pods.length

namespace WellOwned

/-- Of the replica sets of a deployment, one at most controls a pod. -/
theorem countP_setsOf_le_one (h : WellOwned deployments sets pods) {pod : Pod} (hpod : pod ∈ pods)
    (stays : ReplicaSet → Bool) :
    (sets.filter stays).countP (fun set => pod.metadata.isControlledBy set.metadata.uid) ≤ 1 :=
  Nat.le_trans List.filter_sublist.countP_le
    (Metadata.countP_isControlledBy_le_one h.setIds (h.ofPod pod hpod))

/-- A pod is counted for one deployment at most. -/
theorem countP_countsPod_le_one (h : WellOwned deployments sets pods) {pod : Pod}
    (hpod : pod ∈ pods) :
    deployments.countP (fun deployment => DeploymentItem.countsPod sets deployment pod) ≤ 1 := by
  -- the deployments that count the pod are those that control its replica set
  have hsets := Metadata.countP_isControlledBy_le_one h.setIds (h.ofPod pod hpod)
  rw [List.countP_eq_length_filter] at hsets
  have hcounts : ∀ deployment, DeploymentItem.countsPod sets deployment pod =
      (sets.filter fun set => pod.metadata.isControlledBy set.metadata.uid).any fun set =>
        set.metadata.isControlledBy deployment.metadata.uid := by
    intro deployment
    rw [DeploymentItem.countsPod, DeploymentItem.setsOf, List.any_map, List.any_filter,
      List.any_filter]
    simp only [Function.comp_apply, Bool.and_comm]
  cases hfilter : sets.filter fun set => pod.metadata.isControlledBy set.metadata.uid with
  | nil =>
    simp only [hcounts, hfilter, List.any_nil, List.countP_false, Function.const_apply, Nat.zero_le]
  | cons set others =>
    rw [hfilter, List.length_cons] at hsets
    have hothers : others = [] := List.length_eq_zero_iff.1 (by omega)
    have hset : set ∈ sets := by
      have hfiltered : set ∈ set :: others := List.mem_cons_self
      rw [← hfilter] at hfiltered
      exact List.mem_of_mem_filter hfiltered
    simp only [hcounts, hfilter, hothers, List.any_cons, List.any_nil, Bool.or_false]
    exact Metadata.countP_isControlledBy_le_one h.deploymentIds (h.ofSet set hset)

/-- What a deployment counts in a phase is what its replica sets count together. -/
theorem count_ofDeployment (h : WellOwned deployments sets pods) (deployment : Deployment)
    (phase : PodPhase) :
    (DeploymentItem.ofDeployment sets pods deployment).pods.count phase =
      ((sets.filter fun set => set.metadata.isControlledBy deployment.metadata.uid).map fun set =>
        (ReplicaSetItem.ofReplicaSet pods set).pods.count phase).sum := by
  simp only [DeploymentItem.ofDeployment, ReplicaSetItem.ofReplicaSet, DeploymentItem.podsOfAny,
    DeploymentItem.setsOf, podsOf, List.any_map, PodCounts.count_ofPods_filter]
  -- pods in the phase, and replica sets of the deployment
  refine countP_any_eq_sum _ fun pod hpod => ?_
  exact h.countP_setsOf_le_one (List.mem_of_mem_filter hpod) _

/-- Between objects as Kubernetes keeps them, deployments and replica sets count the same pods, and
each of them once. -/
theorem countsEachOnce (h : WellOwned deployments sets pods) :
    CountsEachOnce deployments sets pods where
  sums deployment _ := h.count_ofDeployment deployment
  once := pairwise_disjoint_filter (DeploymentItem.countsPod sets) fun _ hpod =>
    h.countP_countsPod_le_one hpod
  total := by
    calc (deployments.map fun deployment =>
          (DeploymentItem.ofDeployment sets pods deployment).pods.total).sum
      _ ≤ (deployments.map fun deployment =>
            pods.countP (DeploymentItem.countsPod sets deployment)).sum := by
        refine List.sum_le_sum fun deployment _ => ?_
        rw [List.countP_eq_length_filter]
        exact PodCounts.total_ofPods_le _ _ _
      _ = pods.countP (fun pod => deployments.any fun deployment =>
            DeploymentItem.countsPod sets deployment pod) :=
        (countP_any_eq_sum (DeploymentItem.countsPod sets) fun _ hpod =>
          h.countP_countsPod_le_one hpod).symm
      _ ≤ pods.length := List.countP_le_length

/-- Of two replica sets of one deployment and one without an id, and one that something else
controls, a deployment counts the pods of the first two. -/
theorem countsEachOnce_severalSets :
    let owner (uid : String) (controller : Option Bool) : OwnerReference :=
      { apiVersion := "apps/v1", blocksDeletion := none, controller, kind := "", name := "", uid }
    let metadata (uid : Option String) (owners : List OwnerReference) : Metadata :=
      { Metadata.empty with uid, owners := some owners }
    let deployment (uid : Option String) : Deployment :=
      { metadata := metadata uid [], spec := none, status := none }
    let set (uid : Option String) (owners : List OwnerReference) : ReplicaSet :=
      { metadata := metadata uid owners, spec := none, status := none }
    let pod (owners : List OwnerReference) (phase : String) : Pod :=
      { metadata := metadata none owners, spec := none
        status := some { PodStatus.empty with phase := some phase }, content := [] }
    let deployments := [deployment (some "web"), deployment none, deployment (some "api")]
    let sets := [set (some "web-1") [owner "web" (some true)],
      set (some "web-2") [owner "api" none, owner "web" (some true)],
      set none [owner "web" (some true)],
      set (some "api-1") [owner "rollout" (some true), owner "api" (some false)]]
    let pods := [pod [owner "web-1" (some true)] "Running",
      pod [owner "web-2" (some true)] "Running",
      pod [owner "web-2" (some true), owner "web-1" (some false)] "Failed",
      pod [owner "api-1" (some true)] "Running", pod [] "Pending"]
    WellOwned deployments sets pods ∧ CountsEachOnce deployments sets pods ∧
      deployments.map (fun deployment =>
        PodPhase.all.map (DeploymentItem.ofDeployment sets pods deployment).pods.count) =
          [[2, 0, 1, 0], [0, 0, 0, 0], [0, 0, 0, 0]] := by
  intro owner metadata deployment set pod deployments sets pods
  have howned : WellOwned deployments sets pods :=
    ⟨by decide +kernel, by decide +kernel, by decide +kernel, by decide +kernel⟩
  exact ⟨howned, howned.countsEachOnce, by decide +kernel⟩

end WellOwned

end FleetDashboard
