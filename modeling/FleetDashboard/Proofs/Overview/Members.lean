import FleetDashboard.Proofs.Access.Gate
import FleetDashboard.Proofs.Listing.Gather
import FleetDashboard.Proofs.Overview.Overflow

/-!
# Which member clusters the overview sums up and goes on with

The overview sums up the clusters that are listed and that the caller may access, and no other ones.
Those that it reports as ready are among them, so these are clusters for which the caller passes the
gate. The checks begin when the clusters are listed, so none of them begins before the summary does.
Which clusters are registered is told before any check, and only if they were listed without a
failure.

* `Lister.accessibleClusters`, `memberSummary_eq`: the clusters that are summed up.
* `memberSummary_eq_error_iff`, `memberSummary_eq_none_iff`: there is no summary when the listing
  failed critically, or when what the clusters report cannot be counted.
* `SumsAccessible`, `sumsAccessible_iff`: what the overview names and sums up, and when it does.
* `Lister.readyClusters`, `ready_of_memberSummary`: what is ready was listed, allowed by the gate,
  and says so.
* `check_of_mem_ready`: what is ready was allowed by the gate.
* `registered_of_memberSummary`: the registered clusters are all that were listed.
-/

namespace FleetDashboard

variable {lister : Lister} {gate : AccessGate} {user : Option String} {scope : Scope}
  {summary : MemberSummary} {name : String} {now : Nat}

/-- What the summary of the member clusters comes to. -/
theorem memberSummary_value (lister : Lister) (gate : AccessGate) (user : Option String)
    (scope : Scope) (now : Nat) :
    (memberSummary lister gate user scope now).value =
      match (lister.gather [.cluster] .all scope now).value.drain with
      | .error failure => .error (.server failure)
      | .ok lists =>
        .ok (MemberSummary.ofClusters (lists.objects .cluster) lists.warnings
          (gate.filterAccessible user (lists.objects .cluster) ApiObject.name scope
            (lister.gather [.cluster] .all scope now).finish : Run Call _).value) := by
  simp only [memberSummary, Task.bind_eq_andThen, Task.pure_eq_done, Task.andThen_value]
  split <;> simp_all

/-- A single kind is drained to its objects, or to its failure. -/
theorem Gathered.drain_singleton (kind : ResourceKind) (outcome : ListOutcome) :
    Gathered.drain [(kind, outcome)] =
      match outcome with
      | .ok objects => .ok { byKind := [(kind, objects)], warnings := [] }
      | .error failure =>
        if failure.isCritical then .error failure
        else .ok { byKind := [], warnings := [failure] } := by
  rw [Gathered.drain_eq]
  cases outcome with
  | ok objects => rfl
  | error failure =>
    cases hcritical : failure.isCritical with
    | true => simp [Gathered.failures, hcritical]
    | false => simp [Gathered.failures, Gathered.successes, hcritical]

/-- The clusters that the overview sums up: those that are listed and allowed by the gate when they
have been, in their order. -/
def Lister.accessibleClusters (lister : Lister) (gate : AccessGate) (user : Option String)
    (scope : Scope) (now : Nat) : List ApiObject :=
  (lister.outcome .all scope now .cluster).objects.filter fun cluster =>
    AccessGate.lets (gate.check user cluster.name scope
      (lister.gather [.cluster] .all scope now).finish : Run Call _).value

/-- What the summary of the member clusters comes to, by the outcome of their listing. -/
theorem memberSummary_eq (lister : Lister) (gate : AccessGate) (user : Option String)
    (scope : Scope) (now : Nat) :
    (memberSummary lister gate user scope now).value =
      match lister.outcome .all scope now .cluster with
      | .ok clusters =>
        .ok (MemberSummary.ofClusters clusters []
          (gate.filterAccessible user clusters ApiObject.name scope
            (lister.gather [.cluster] .all scope now).finish : Run Call _).value)
      | .error failure =>
        if failure.isCritical then .error (.server failure)
        else .ok (MemberSummary.ofClusters [] [failure] []) := by
  rw [memberSummary_value, Lister.gather_value, List.map_singleton, Gathered.drain_singleton]
  cases lister.outcome .all scope now .cluster with
  | ok clusters => rfl
  | error failure =>
    dsimp only
    cases failure.isCritical <;> rfl

/-- Unless the listing failed critically, the summary is that of the accessible clusters. -/
theorem memberSummary_of_not_isCritical
    (h : ¬ (lister.outcome .all scope now .cluster).IsCritical) :
    (memberSummary lister gate user scope now).value =
      .ok (MemberSummary.ofClusters (lister.outcome .all scope now .cluster).objects
        (lister.outcome .all scope now .cluster).failure?.toList
        (lister.accessibleClusters gate user scope now)) := by
  rw [memberSummary_eq]
  unfold Lister.accessibleClusters
  cases houtcome : lister.outcome .all scope now .cluster with
  | ok clusters =>
    dsimp only
    rw [AccessGate.filterAccessible_value]
    rfl
  | error failure =>
    -- without clusters there is nothing to sum up
    rw [houtcome, ListOutcome.isCritical_iff] at h
    dsimp only
    rw [if_neg]
    · rfl
    · exact fun hcritical => h hcritical

/-- The summary is there when the clusters have been listed and all of them checked. -/
theorem memberSummary_finish (lister : Lister) (gate : AccessGate) (user : Option String)
    (scope : Scope) (now : Nat) :
    (memberSummary lister gate user scope now).finish =
      (gate.filterAccessible user (lister.outcome .all scope now .cluster).objects ApiObject.name
        scope (lister.gather [.cluster] .all scope now).finish : Run Call _).finish := by
  simp only [memberSummary, Task.bind_eq_andThen, Task.pure_eq_done, Task.andThen_finish]
  rw [Lister.gather_value, List.map_singleton, Gathered.drain_singleton]
  cases lister.outcome .all scope now .cluster with
  | ok clusters => rfl
  | error failure =>
    -- without clusters there is nothing to check
    dsimp only
    cases failure.isCritical <;> rfl

/-- The only calls that the summary makes are those for the clusters. -/
theorem memberSummary_log (lister : Lister) (gate : AccessGate) (user : Option String)
    (scope : Scope) (now : Nat) :
    (memberSummary lister gate user scope now).log =
      (lister.gather [.cluster] .all scope now).log := by
  simp only [memberSummary, Task.bind_eq_andThen, Task.pure_eq_done, Task.andThen_log]
  cases (lister.gather [.cluster] .all scope now).value.drain with
  | error failure => simp
  | ok lists => simp

/-- There is an error in place of a summary exactly when the listing of the clusters failed
critically. -/
theorem memberSummary_eq_error_iff :
    (∃ error, (memberSummary lister gate user scope now).value = .error error) ↔
      (lister.outcome .all scope now .cluster).IsCritical := by
  constructor
  · rintro ⟨error, herror⟩
    by_contra hmild
    rw [memberSummary_of_not_isCritical hmild] at herror
    cases herror
  · rintro ⟨failure, hfailure, hcritical⟩
    rw [memberSummary_eq, hfailure]
    exact ⟨_, if_pos hcritical⟩

/-- A listing that failed leaves no clusters, and those can be counted. -/
theorem countable_of_isCritical (h : (lister.outcome .all scope now .cluster).IsCritical) :
    Countable (lister.accessibleClusters gate user scope now) := by
  obtain ⟨failure, hfailure, -⟩ := h
  rw [Lister.accessibleClusters, hfailure]
  exact countable_nil

/-- There is a summary exactly when the listing did not fail critically and what the accessible
clusters report can be counted. -/
theorem exists_memberSummary_iff :
    (∃ summary, (memberSummary lister gate user scope now).value = .ok (some summary)) ↔
      ¬ (lister.outcome .all scope now .cluster).IsCritical ∧
        Countable (lister.accessibleClusters gate user scope now) := by
  by_cases hcritical : (lister.outcome .all scope now .cluster).IsCritical
  · obtain ⟨error, herror⟩ := memberSummary_eq_error_iff.2 hcritical
    rw [herror]
    exact iff_of_false nofun fun h => h.1 hcritical
  · rw [memberSummary_of_not_isCritical hcritical]
    simp only [Except.ok.injEq, MemberSummary.exists_ofClusters_iff, hcritical, not_false_eq_true,
      true_and]

/-- Without an error there is no summary exactly when what they report cannot be counted. -/
theorem memberSummary_eq_none_iff :
    (memberSummary lister gate user scope now).value = .ok none ↔
      ¬ Countable (lister.accessibleClusters gate user scope now) := by
  by_cases hcritical : (lister.outcome .all scope now .cluster).IsCritical
  · obtain ⟨error, herror⟩ := memberSummary_eq_error_iff.2 hcritical
    rw [herror]
    exact iff_of_false nofun fun h => h (countable_of_isCritical hcritical)
  · rw [memberSummary_of_not_isCritical hcritical, Except.ok.injEq,
      MemberSummary.ofClusters_eq_none_iff]

/-- A summary names and sums up the clusters that are listed and allowed. -/
theorem sums_of_memberSummary
    (h : (memberSummary lister gate user scope now).value = .ok (some summary)) :
    summary.Sums (lister.outcome .all scope now .cluster).objects
      (lister.accessibleClusters gate user scope now)
      (lister.outcome .all scope now .cluster).failure?.toList := by
  have hmild := (exists_memberSummary_iff.1 ⟨summary, h⟩).1
  rw [memberSummary_of_not_isCritical hmild, Except.ok.injEq] at h
  exact MemberSummary.sums_of_ofClusters h

/-- The registered clusters are all that were listed, if the listing went without a failure. -/
theorem registered_of_memberSummary
    (h : (memberSummary lister gate user scope now).value = .ok (some summary)) :
    summary.registered =
      (lister.outcome .all scope now .cluster).toOption.map (·.map ApiObject.name) := by
  rw [(sums_of_memberSummary h).registered]
  cases lister.outcome .all scope now .cluster with
  | ok clusters => rfl
  | error failure => rfl

/-- The names of the clusters that the overview goes on with: those that are listed, allowed by the
gate when they have been, and ready. -/
def Lister.readyClusters (lister : Lister) (gate : AccessGate) (user : Option String)
    (scope : Scope) (now : Nat) : List String :=
  ((lister.accessibleClusters gate user scope now).filter ApiObject.saysReady).map ApiObject.name

/-- What is ready in the summary are those clusters. -/
theorem ready_of_memberSummary
    (h : (memberSummary lister gate user scope now).value = .ok (some summary)) :
    summary.ready = lister.readyClusters gate user scope now :=
  (sums_of_memberSummary h).ready

/-- A cluster that is ready was allowed by the gate when the clusters had been listed. -/
theorem check_listed_of_mem_ready
    (h : (memberSummary lister gate user scope now).value = .ok (some summary))
    (hready : name ∈ summary.ready) :
    (gate.check user name scope (lister.gather [.cluster] .all scope now).finish :
      Run Call _).value = .ok .allow := by
  rw [ready_of_memberSummary h] at hready
  obtain ⟨cluster, hcluster, rfl⟩ := List.mem_map.1 hready
  obtain ⟨haccessible, -⟩ := List.mem_filter.1 hcluster
  rw [Lister.accessibleClusters, List.mem_filter, AccessGate.lets_iff] at haccessible
  exact haccessible.2

/-- A cluster that is ready was allowed by the gate, in a check that did not begin before the
summary did. -/
theorem check_of_mem_ready
    (h : (memberSummary lister gate user scope now).value = .ok (some summary))
    (hready : name ∈ summary.ready) :
    ∃ later, now ≤ later ∧
      (gate.check user name scope later : Run Call _).value = .ok .allow :=
  ⟨_, lister.forward_gather _ _ scope now, check_listed_of_mem_ready h hready⟩

/-! ## What the overview sums up -/

/-- What it means that the overview sums up the accessible clusters, when it starts at a moment. -/
structure SumsAccessible (lister : Lister) (gate : AccessGate) (user : Option String)
    (scope : Scope) (now : Nat) : Prop where
  /-- There is a summary unless the listing failed critically. -/
  answers : ¬ (lister.outcome .all scope now .cluster).IsCritical →
    ∃ summary, (memberSummary lister gate user scope now).value = .ok (some summary)
  /-- It names and sums up the clusters that are listed and allowed. -/
  sums : ∀ summary, (memberSummary lister gate user scope now).value = .ok (some summary) →
    summary.Sums (lister.outcome .all scope now .cluster).objects
      (lister.accessibleClusters gate user scope now)
      (lister.outcome .all scope now .cluster).failure?.toList
  /-- A cluster is ready if some condition of the type `Ready` has the status `True`. -/
  readiness : ∀ cluster : ApiObject, cluster.saysReady ↔
    ∃ condition ∈ (ClusterStatus.ofField (Json.lookup "status" cluster.content)).conditions,
      condition.conditionType = "Ready" ∧ condition.status = "True"
  /-- A cluster without a status, or with one that cannot be read, contributes nothing and is not
  ready. -/
  silentCluster : ∀ cluster : ApiObject,
    (Json.lookup "status" cluster.content).bind ClusterStatus.ofJson? = none →
      cluster.capacity = .zero ∧ cluster.saysReady = false
  /-- A quantity that is absent or malformed is zero, also when it is counted in whole pods. -/
  silentQuantity : ∀ (quantities : List (String × String)) (name : String),
    (∀ entry, quantities.find? (·.1 == name) = some entry → Quantity.parse? entry.2 = none) →
      ClusterStatus.amount quantities name = .zero ∧
        (ClusterStatus.amount quantities name).toInt64 = 0

/-- The overview sums up the accessible clusters, and no other ones, exactly if what these report
can be counted, up to each of them. Otherwise there is no summary, and the work breaks off. -/
theorem sumsAccessible_iff (lister : Lister) (gate : AccessGate) (user : Option String)
    (scope : Scope) (now : Nat) :
    (SumsAccessible lister gate user scope now ↔
      Countable (lister.accessibleClusters gate user scope now)) ∧
    ((memberSummary lister gate user scope now).value = .ok none ↔
      ¬ Countable (lister.accessibleClusters gate user scope now)) := by
  refine ⟨⟨fun h => ?_, fun hcountable => ?_⟩, memberSummary_eq_none_iff⟩
  · by_cases hcritical : (lister.outcome .all scope now .cluster).IsCritical
    · exact countable_of_isCritical hcritical
    · exact (exists_memberSummary_iff.1 (h.answers hcritical)).2
  · constructor
    case answers => exact fun hmild => exists_memberSummary_iff.2 ⟨hmild, hcountable⟩
    case sums => exact fun summary hsummary => sums_of_memberSummary hsummary
    case readiness => exact fun cluster => ApiObject.saysReady_iff
    case silentCluster => exact fun cluster => ApiObject.of_status_eq_none
    case silentQuantity =>
      intro quantities name habsent
      rw [ClusterStatus.amount_eq_zero habsent]
      exact ⟨rfl, ClusterStatus.toInt64_zero⟩

/-- It is not the case that the overview always sums up the accessible clusters: of two clusters
with more nodes than can be counted there is no summary, although they are listed and no policy
keeps them from the caller. -/
theorem not_sumsAccessible_of_hugeReport :
    ¬ ∀ (lister : Lister) (gate : AccessGate) (user : Option String) (scope : Scope) (now : Nat),
      SumsAccessible lister gate user scope now := by
  intro h
  let lister : Lister :=
    { list := fun _ _ => .done (.answer hugeReport)
      get := fun _ _ name => .done (.error (.plain .notFound name)) }
  let gate : AccessGate := { policy := none, timeout := 5000 }
  have hmild : ¬ (lister.outcome .all (.lasting 0 30000) 0 .cluster).IsCritical := by
    decide +kernel
  obtain ⟨summary, hsummary⟩ := (h lister gate none (.lasting 0 30000) 0).answers hmild
  have hnone :
      (memberSummary lister gate none (.lasting 0 30000) 0).value.toOption.join.isNone := by
    decide +kernel
  rw [hsummary] at hnone
  cases hnone

end FleetDashboard
