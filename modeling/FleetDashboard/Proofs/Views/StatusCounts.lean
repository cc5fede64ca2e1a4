import FleetDashboard.Proofs.Views.Listing
import FleetDashboard.Proofs.Views.PodOwnership

/-!
# Counts by status

The lists of pods, deployments and cron jobs count their items by status. All items are counted,
before any is filtered out, so the counts do not depend on what is asked of the items, and they can
be found again by filtering.

A filter looks for its term anywhere in a status. So filtering pods by a status keeps those that are
counted under it, and perhaps others: a phase may be any text, and `NotRunning` holds `Running`.
None of the statuses that Kubernetes has holds another one, and among pods with such statuses
nothing else is kept.

* `ListRequest.ofStatus`: the list of what holds a text in its status.
* `CountedStatus`, `StatusCounts.count`: the statuses by which pods are counted.
* `ListView.matched_ofStatus`: how many items are kept by filtering by status.
* `CountsByStatus`, `ListRequest.countsByStatus`: the counts are those of all items and agree with
  filtering.
-/

namespace FleetDashboard

open Selection (SortKey matchesAll)

/-! ## All items -/

/-- The list of what holds a text in its status, in some order and on some page. -/
def ListRequest.ofStatus (request : ListRequest) (text : String) (sorts : List SortKey)
    (page : Selection.Page) : ListRequest :=
  { request with query := { filters := [⟨.status, text⟩], sorts, page } }

namespace ListView

variable {request : ListRequest} {now : Nat}

/-- The counts of a list are those of all items, whatever is asked of them. -/
theorem page_value_map_status (view : ListView) (request : ListRequest) (query : Selection.Query)
    (now : Nat) :
    (view.page { request with query } now).value.map (·.status) =
      (view.whole request now).map view.statusCounts := by
  rw [page_value_eq]
  -- what is listed does not depend on the query
  change ((view.whole request now).map _).map _ = _
  cases view.whole request now with
  | error error => rfl
  | ok items => rfl

/-- A page is there only if all items are. -/
theorem exists_whole_of_value (view : ListView) {page : ListPage view.Shown}
    (h : (view.page request now).value = .ok page) :
    ∃ items, view.whole request now = .ok items ∧ page.status = view.statusCounts items ∧
      page.total = items.length := by
  rw [page_value_eq] at h
  cases hwhole : view.whole request now with
  | error error =>
    rw [hwhole] at h
    cases h
  | ok items =>
    rw [hwhole] at h
    cases h
    exact ⟨items, rfl, rfl, rfl⟩

/-- Filtering by status keeps what it keeps of all items. -/
theorem matched_ofStatus (view : ListView) {items : List view.Shown}
    (h : view.whole request now = .ok items) (text : String) (sorts : List SortKey)
    (page : Selection.Page) :
    (view.page (request.ofStatus text sorts page) now).value.map (·.matched) =
      .ok (items.countP (matchesAll [⟨.status, text⟩])) := by
  rw [page_value_eq]
  change ((view.whole request now).map _).map _ = _
  rw [h, List.countP_eq_length_filter]
  rfl

/-- All items are those of the objects that are listed. -/
theorem eq_filterMap_of_whole {view : ListView} {items : List view.Shown}
    (h : view.whole request now = .ok items) :
    items = (request.listed now view.kind).filterMap (view.item? (request.listed now)) := by
  rw [whole] at h
  split at h
  · cases h
  · rw [collect] at h
    split at h
    · cases h
    · cases h
      rfl

/-- All items of the list of pods are those of the pods. -/
theorem eq_map_ofPod_of_whole {items : List PodItem}
    (h : ListView.pods.whole request now = .ok items) :
    items = (readable Pod (request.listed now)).map PodItem.ofPod :=
  (eq_filterMap_of_whole h).trans List.map_filterMap.symm

end ListView

/-! ## Items that run or wait -/

namespace StatusCounts

theorem running_add_pending_ofRunning {α : Type} (isRunning : α → Bool) (items : List α) :
    (ofRunning isRunning items).running + (ofRunning isRunning items).pending = items.length := by
  have hle : items.countP isRunning ≤ items.length := List.countP_le_length
  change items.countP isRunning + (items.length - items.countP isRunning) = items.length
  omega

/-- What does not run is counted as waiting. -/
theorem pending_ofRunning {α : Type} (isRunning : α → Bool) (items : List α) :
    (ofRunning isRunning items).pending = items.countP fun item => !isRunning item := by
  have hsplit := List.length_eq_countP_add_countP isRunning (l := items)
  simp only [Bool.not_eq_true, Bool.decide_eq_false] at hsplit
  change items.length - items.countP isRunning = _
  omega

end StatusCounts

namespace DeploymentItem

/-- A filter by status looks at whether a deployment runs. -/
theorem matchesAll_status (text : String) (item : DeploymentItem) :
    matchesAll [⟨.status, text⟩] item =
      Text.occursIn text.toList (if item.isRunning then "Running" else "Pending").toList :=
  Bool.and_true _

/-- A filter for what runs keeps as many deployments as are counted as running. -/
theorem countP_running (items : List DeploymentItem) :
    items.countP (matchesAll [⟨.status, "Running"⟩]) =
      (StatusCounts.ofRunning isRunning items).running := by
  refine List.countP_congr fun item _ => ?_
  rw [matchesAll_status]
  -- neither of the two texts holds the other
  cases item.isRunning with
  | false => decide
  | true => decide

/-- A filter for what waits keeps as many as are counted as waiting. -/
theorem countP_pending (items : List DeploymentItem) :
    items.countP (matchesAll [⟨.status, "Pending"⟩]) =
      (StatusCounts.ofRunning isRunning items).pending := by
  rw [StatusCounts.pending_ofRunning]
  refine List.countP_congr fun item _ => ?_
  rw [matchesAll_status]
  cases item.isRunning with
  | false => decide
  | true => decide

end DeploymentItem

/-! ## Pods -/

/-- The statuses by which pods are counted. -/
inductive CountedStatus where
  | running
  | pending
  | failed
  | succeeded
  | terminating
deriving DecidableEq

namespace CountedStatus

/-- The text of a status. -/
def text : CountedStatus → String
  | .running => "Running"
  | .pending => "Pending"
  | .failed => "Failed"
  | .succeeded => "Succeeded"
  | .terminating => "Terminating"

/-- All of these statuses. -/
def all : List CountedStatus :=
  [.running, .pending, .failed, .succeeded, .terminating]

theorem mem_all (status : CountedStatus) : status ∈ all := by
  cases status <;> decide

/-- The texts of the statuses by which pods are counted. -/
def texts : List String :=
  all.map text

/-- Among the statuses that Kubernetes has only a status itself holds its text. -/
theorem occursIn_text (status : CountedStatus) {shown : String} (h : shown ∈ texts ++ ["Unknown"]) :
    Text.occursIn status.text.toList shown.toList = (shown == status.text) := by
  -- five statuses against six
  have htable : ∀ status ∈ all, ∀ shown ∈ texts ++ ["Unknown"],
      Text.occursIn status.text.toList shown.toList = (shown == status.text) := by
    decide +kernel
  exact htable status status.mem_all shown h

end CountedStatus

/-- How many items are counted under a status. -/
def StatusCounts.count (counts : StatusCounts) : CountedStatus → Nat
  | .running => counts.running
  | .pending => counts.pending
  | .failed => counts.failed
  | .succeeded => counts.succeeded
  | .terminating => counts.terminating

namespace PodItem

variable {items : List PodItem}

theorem count_counts (items : List PodItem) (status : CountedStatus) :
    (counts items).count status = items.countP fun item => item.status == status.text := by
  cases status <;> rfl

/-- A pod is kept by a filter for a status if its own holds the text. -/
theorem matchesAll_status (text : String) (item : PodItem) :
    matchesAll [⟨.status, text⟩] item = Text.occursIn text.toList item.status.toList :=
  Bool.and_true _

/-- What is counted under a status is kept by filtering by it. -/
theorem count_counts_le (items : List PodItem) (status : CountedStatus) :
    (counts items).count status ≤ items.countP (matchesAll [⟨.status, status.text⟩]) := by
  rw [count_counts]
  refine List.countP_mono_left fun item _ hstatus => ?_
  rw [matchesAll_status, beq_iff_eq.1 hstatus, Text.occursIn_iff]

/-- A filter also keeps what merely holds the text of the status. -/
example :
    let pod (phase : String) : Pod :=
      { metadata := .empty, spec := none
        status := some { PodStatus.empty with phase := some phase }, content := [] }
    let items := [pod "Running", pod "NotRunning"].map ofPod
    (counts items).running = 1 ∧ items.countP (matchesAll [⟨.status, "Running"⟩]) = 2 := by
  decide +kernel

/-- Among pods with statuses that Kubernetes has nothing else is kept. -/
theorem count_counts_eq (h : ∀ item ∈ items, item.status ∈ CountedStatus.texts ++ ["Unknown"])
    (status : CountedStatus) :
    (counts items).count status = items.countP (matchesAll [⟨.status, status.text⟩]) := by
  rw [count_counts]
  refine List.countP_congr fun item hitem => ?_
  rw [matchesAll_status, status.occursIn_text (h item hitem)]

/-- Each pod is counted under one status, or has another one. -/
theorem sum_count_counts (items : List PodItem) :
    (CountedStatus.all.map (counts items).count).sum +
      items.countP (fun item => item.status ∉ CountedStatus.texts) = items.length := by
  have hdistinct : (CountedStatus.all.map CountedStatus.text).Nodup := by decide
  have hcounted (item : PodItem) :
      (CountedStatus.all.any fun status => item.status == status.text) =
        decide (item.status ∈ CountedStatus.texts) := by
    rw [Bool.eq_iff_iff, List.any_eq_true, decide_eq_true_eq, CountedStatus.texts, List.mem_map]
    exact exists_congr fun status => and_congr_right fun _ => beq_iff_eq.trans eq_comm
  -- the texts differ, so no pod is counted under two of them
  have hsum : (CountedStatus.all.map (counts items).count).sum =
      items.countP fun item => item.status ∈ CountedStatus.texts := by
    calc (CountedStatus.all.map (counts items).count).sum
      _ = (CountedStatus.all.map fun status =>
            items.countP fun item => item.status == status.text).sum := by
        rw [funext (count_counts items)]
      _ = items.countP fun item =>
            CountedStatus.all.any fun status => item.status == status.text :=
        (countP_any_eq_sum _ fun item _ => countP_beq_le_one hdistinct item.status).symm
      _ = items.countP fun item => item.status ∈ CountedStatus.texts := by
        rw [funext hcounted]
  have hsplit := List.length_eq_countP_add_countP
    (fun item : PodItem => decide (item.status ∈ CountedStatus.texts)) (l := items)
  simp only [decide_eq_true_eq] at hsplit
  rw [hsum, hsplit]

end PodItem

/-! ## Counts of all items -/

/-- What it means that the counts by status are those of all items and agree with filtering. -/
structure CountsByStatus (request : ListRequest) (now : Nat) : Prop where
  /-- Every list has the same counts whatever is asked of its items, and fails alike. -/
  steady : ∀ (view : ListView) (query : Selection.Query),
    (view.page { request with query } now).value.map (·.status) =
      (view.page { request with query := .everything } now).value.map (·.status)
  /-- Every deployment runs or waits, and filtering by either keeps as many as are counted. -/
  deployments : ∀ page, (listDeployments request now).value = .ok page →
    ∃ counts, page.status = some counts ∧ counts.running + counts.pending = page.total ∧
      ∀ sorts window,
        (listDeployments (request.ofStatus "Running" sorts window) now).value.map (·.matched) =
          .ok counts.running ∧
        (listDeployments (request.ofStatus "Pending" sorts window) now).value.map (·.matched) =
          .ok counts.pending
  /-- Filtering pods by a status keeps those that are counted, and no others if all statuses are
  among those that Kubernetes has. A pod that is not counted has another status. -/
  pods : ∀ page, (listPods request now).value = .ok page →
    ∃ counts, page.status = some counts ∧
      (∀ (status : CountedStatus) sorts window, ∃ kept,
        (listPods (request.ofStatus status.text sorts window) now).value.map (·.matched) =
            .ok kept ∧
          counts.count status ≤ kept ∧
          ((∀ pod ∈ readable Pod (request.listed now),
              PodItem.statusOf pod ∈ CountedStatus.texts ++ ["Unknown"]) →
            counts.count status = kept)) ∧
      (CountedStatus.all.map counts.count).sum +
          (readable Pod (request.listed now)).countP
            (fun pod => PodItem.statusOf pod ∉ CountedStatus.texts) =
        page.total
  /-- Every cron job runs or waits. -/
  cronJobs : ∀ page, (listCronJobs request now).value = .ok page →
    ∃ counts, page.status = some counts ∧ counts.running + counts.pending = page.total

/-- The counts by status are those of all items and agree with filtering. -/
theorem ListRequest.countsByStatus (request : ListRequest) (now : Nat) :
    CountsByStatus request now where
  steady view query := by
    rw [ListView.page_value_map_status, ListView.page_value_map_status]
  deployments page h := by
    obtain ⟨items, hwhole, hstatus, htotal⟩ :=
      ListView.exists_whole_of_value .deployments h
    have hkept (text sorts window) :
        (listDeployments (request.ofStatus text sorts window) now).value.map (·.matched) =
          .ok (items.countP (matchesAll [⟨.status, text⟩])) :=
      ListView.matched_ofStatus .deployments hwhole text sorts window
    refine ⟨_, hstatus, ?_, fun sorts window => ⟨?_, ?_⟩⟩
    · rw [htotal]
      exact StatusCounts.running_add_pending_ofRunning _ _
    · exact (hkept "Running" sorts window).trans
        (congrArg Except.ok (DeploymentItem.countP_running items))
    · exact (hkept "Pending" sorts window).trans
        (congrArg Except.ok (DeploymentItem.countP_pending items))
  pods page h := by
    obtain ⟨items, hwhole, hstatus, htotal⟩ := ListView.exists_whole_of_value .pods h
    -- the items are those of the pods, with the statuses of these
    obtain rfl := ListView.eq_map_ofPod_of_whole hwhole
    have hkept (text sorts window) :
        (listPods (request.ofStatus text sorts window) now).value.map (·.matched) =
          .ok (((readable Pod (request.listed now)).map PodItem.ofPod).countP
            (matchesAll [⟨.status, text⟩])) :=
      ListView.matched_ofStatus .pods hwhole text sorts window
    refine ⟨_, hstatus, fun status sorts window =>
      ⟨_, hkept status.text sorts window, PodItem.count_counts_le _ status, fun hknown => ?_⟩, ?_⟩
    · exact PodItem.count_counts_eq (List.forall_mem_map.2 hknown) status
    · have hsum := PodItem.sum_count_counts ((readable Pod (request.listed now)).map PodItem.ofPod)
      rw [List.countP_map] at hsum
      exact hsum.trans htotal.symm
  cronJobs page h := by
    obtain ⟨items, hwhole, hstatus, htotal⟩ := ListView.exists_whole_of_value .cronJobs h
    refine ⟨_, hstatus, ?_⟩
    rw [htotal]
    exact StatusCounts.running_add_pending_ofRunning _ _

end FleetDashboard
