import FleetDashboard.Proofs.Api.Envelope
import FleetDashboard.Proofs.Api.ManagerIndependence
import FleetDashboard.Proofs.Api.Retention

/-!
# What can fail the overview, and what cannot

Listing the clusters can, and so can listing the resources of the control plane, when either fails
critically. Nothing else can where the clusters can be counted: without the controller manager its
part is empty, and a member that fails adds nothing to the Argo CD counts and takes nothing from
them.

* `Wait.timely?_bothOrFirst`: what comes of two waits in time.
* `Service.ManagerFails`: the controller manager is not known in time.
* `Service.overviewKinds`, `Service.listing`: what the overview lists, and what becomes of it.
* `Service.contributors`, `Service.contribution`: who adds what to the Argo CD counts.
* `Service.SettlesOverview`: what the answer to a request for the overview is settled by.
* `Service.settlesOverview_of_admitted`: it is so for every request that is admitted, when the
  control plane can be reached and its clusters can be counted.
-/

namespace FleetDashboard

/-! ## Two waits together -/

namespace Wait

variable {ε α β : Type} {left : Wait (Except ε α)} {right : Wait (Except ε β)} {scope : Scope}
  {first : α} {second : β} {now : Nat}

/-- Two waits succeed together when the slower one does. -/
theorem bothOrFirst_eq_ok_iff {ms : Nat} :
    left.bothOrFirst right = .after ms (.ok (first, second)) ↔
      ∃ m n, left = .after m (.ok first) ∧ right = .after n (.ok second) ∧ max m n = ms := by
  constructor
  · intro h
    unfold bothOrFirst at h
    split at h
    · split at h <;> cases h
    · cases h
    · cases h
    · -- neither of them fails, so both have to succeed
      split at h
      · cases h
        exact ⟨_, _, rfl, rfl, rfl⟩
      · cases h
  · rintro ⟨m, n, rfl, rfl, rfl⟩
    rfl

/-- Two waits succeed in time exactly if each of them does. -/
theorem timely?_bothOrFirst :
    (left.bothOrFirst right).timely? (scope.InTime now) = some (.ok (first, second)) ↔
      left.timely? (scope.InTime now) = some (.ok first) ∧
        right.timely? (scope.InTime now) = some (.ok second) := by
  simp only [timely?_eq_some_iff, bothOrFirst_eq_ok_iff]
  constructor
  · rintro ⟨ms, ⟨m, n, hleft, hright, rfl⟩, hin⟩
    exact ⟨⟨m, hleft, hin.of_sooner (Nat.le_max_left m n)⟩,
      ⟨n, hright, hin.of_sooner (Nat.le_max_right m n)⟩⟩
  · rintro ⟨⟨m, hleft, hinLeft⟩, ⟨n, hright, hinRight⟩⟩
    refine ⟨_, ⟨m, n, hleft, hright, rfl⟩, ?_⟩
    rcases Nat.le_total m n with hle | hle
    · rwa [Nat.max_eq_right hle]
    · rwa [Nat.max_eq_left hle]

end Wait

/-- The controller manager is known exactly if its version output and its deployment are there in
time. -/
theorem controllerInfo_eq_ok_iff {ε : Type} {source : ManagerSource} {scope : Scope} {now : Nat}
    {info : ControllerInfo} :
    (controllerInfo source scope now : Run ε _).value = .ok info ↔
      ∃ output deployment, source.versionOutput.timely? (scope.InTime now) = some (.ok output) ∧
        source.deployment.timely? (scope.InTime now) = some (.ok deployment) ∧
        info = .ofParts output deployment := by
  -- the look-up waits for the two together, and only what comes of that in time is made into it
  have hresult : ∀ output deployment,
      (scope.await now (source.versionOutput.bothOrFirst source.deployment)).value =
          .result (.ok (output, deployment)) ↔
        source.versionOutput.timely? (scope.InTime now) = some (.ok output) ∧
          source.deployment.timely? (scope.InTime now) = some (.ok deployment) := by
    intro output deployment
    rw [Scope.await_value_eq_result_iff, ← Wait.timely?_eq_some_iff, Wait.timely?_bothOrFirst]
  simp only [controllerInfo, Task.bind_eq_andThen, Task.pure_eq_done, Task.andThen_value,
    Task.await_run, Task.done_run]
  constructor
  · intro h
    split at h
    next output deployment hending =>
      obtain ⟨houtput, hdeployment⟩ := (hresult output deployment).1 hending
      exact ⟨output, deployment, houtput, hdeployment, (Except.ok.inj h).symm⟩
    all_goals cases h
  · rintro ⟨output, deployment, houtput, hdeployment, rfl⟩
    rw [(hresult output deployment).2 ⟨houtput, hdeployment⟩]

namespace Service

variable {service : Service} {request : HttpRequest} {identity : Identity} {bound : BoundLister}
  {scope : Scope} {members : MemberSummary} {resources : ResourceSummary} {now : Nat}

/-- The scope of a request lasts for the time that a request may take, so that is what its waits are
measured by. -/
theorem timely?_servingScope {α : Type} (service : Service) (request : HttpRequest) (now : Nat)
    (wait : Wait α) :
    wait.timely? ((service.servingScope request now).InTime (service.caller request now).finish) =
      wait.timely? (· ≤ service.requestTimeout) :=
  wait.timely?_congr fun _ => Scope.inTime_lasting_iff

/-! ## Without the controller manager -/

/-- The controller manager cannot be reached, or its version output or its deployment fails or is
late. -/
def ManagerFails (service : Service) : Prop :=
  (∃ error, service.targets.manager = .error error) ∨
    ∃ source, service.targets.manager = .ok source ∧
      ((∀ output,
          source.versionOutput.timely? (· ≤ service.requestTimeout) ≠ some (.ok output)) ∨
        ∀ deployment,
          source.deployment.timely? (· ≤ service.requestTimeout) ≠ some (.ok deployment))

/-- The controller manager is not known exactly if that is so. -/
theorem controller?_eq_none_iff :
    (service.controller? (service.servingScope request now)
      (service.caller request now).finish).value = none ↔ service.ManagerFails := by
  unfold ManagerFails
  cases hmanager : service.targets.manager with
  | error error =>
    rw [controller?, hmanager]
    exact iff_of_true rfl (Or.inl ⟨error, rfl⟩)
  | ok source =>
    have hvalue : ∀ scope start, (service.controller? scope start).value =
        (controllerInfo source scope start : Run ServiceEvent _).value.toOption := by
      intro scope start
      rw [controller?, hmanager]
      rfl
    rw [hvalue, Option.eq_none_iff_forall_ne_some]
    simp only [ne_eq, toOption_eq_some_iff, controllerInfo_eq_ok_iff, timely?_servingScope]
    constructor
    · intro hunknown
      refine Or.inr ⟨source, rfl, ?_⟩
      -- with the version output in time it is the deployment that is missing
      by_cases houtput : ∃ output,
          source.versionOutput.timely? (· ≤ service.requestTimeout) = some (.ok output)
      · obtain ⟨output, houtput⟩ := houtput
        exact Or.inr fun deployment hdeployment =>
          hunknown _ ⟨output, deployment, houtput, hdeployment, rfl⟩
      · exact Or.inl fun output hok => houtput ⟨output, hok⟩
    · rintro (⟨error, ⟨⟩⟩ | ⟨_, ⟨rfl⟩, hfails⟩) info ⟨output, deployment, houtput, hdeployment, -⟩
      rcases hfails with hfails | hfails
      · exact hfails output houtput
      · exact hfails deployment hdeployment

/-! ## What the overview lists -/

/-- The kinds that the overview lists on the control plane: the clusters, then the resources in the
order in which they are asked for. -/
def overviewKinds : List ResourceKind :=
  .cluster :: ResourceSummary.kinds

/-- The overview for a caller has both parts that are read from the control plane if none of its
kinds fails critically and the clusters can be counted. -/
theorem parts_of_mild {user : Option String}
    (hcounts : Countable (bound.lister.accessibleClusters service.gate user scope now))
    (hmild : ∀ kind ∈ overviewKinds, ¬ (bound.lister.outcome .all scope now kind).IsCritical) :
    ∃ members resources, (service.memberPart bound user scope now).value = .ok (some members) ∧
      (resourcePart bound scope now).value = .ok resources := by
  obtain ⟨members, hmembers⟩ :=
    exists_memberSummary_iff.2 ⟨hmild _ List.mem_cons_self, hcounts⟩
  cases hresources : (resourcePart bound scope now).value with
  | error error =>
    obtain ⟨kind, hkind, hcritical⟩ := resourcePart_eq_error_iff.1 ⟨error, hresources⟩
    exact absurd hcritical (hmild kind (List.mem_cons_of_mem _ hkind))
  | ok resources => exact ⟨members, resources, hmembers, rfl⟩

/-- The first of the kinds to fail critically is what the overview fails with, if the clusters can
be counted. -/
theorem overview_of_first {earlier later : List ResourceKind} {kind : ResourceKind}
    {failure : ServerFailure} (hplane : service.targets.controlPlane identity = .ok bound)
    (hcounts : Countable
      (bound.lister.accessibleClusters service.gate identity.username scope now))
    (hkinds : overviewKinds = earlier ++ kind :: later)
    (hearlier : ∀ other ∈ earlier, ¬ (bound.lister.outcome .all scope now other).IsCritical)
    (hkind : bound.lister.outcome .all scope now kind = .error failure)
    (hcritical : failure.isCritical = true) :
    (service.overview identity scope now).value = .ofError (.resource (.server failure)) := by
  have hpart : (service.memberPart bound identity.username scope now).value =
      (memberSummary bound.lister service.gate identity.username scope now).value := rfl
  cases earlier with
  | nil =>
    -- the first kind is that of the clusters
    obtain ⟨rfl, -⟩ := List.cons.inj hkinds
    have hmembers : (service.memberPart bound identity.username scope now).value =
        .error (.server failure) := by
      rw [hpart, memberSummary_eq, hkind]
      exact if_pos hcritical
    rw [overview_of_failed hplane (Or.inl hmembers)]
  | cons first earlier =>
    obtain ⟨rfl, htail⟩ := List.cons.inj hkinds
    have hresourceKinds : ResourceSummary.kinds = earlier ++ kind :: later := htail
    have hresources : (resourcePart bound scope now).value = .error (.server failure) := by
      rw [resourcePart_value, hresourceKinds, Gathered.drain_map_of_first hkind hcritical
        fun other hother => hearlier other (List.mem_cons_of_mem _ hother)]
      rfl
    obtain ⟨members, hmembers⟩ :=
      exists_memberSummary_iff.2 ⟨hearlier _ List.mem_cons_self, hcounts⟩
    rw [overview_of_failed hplane (Or.inr ⟨⟨members, hmembers⟩, hresources⟩)]

/-! ## Other members -/

/-- The service when its members are reached elsewhere. -/
def withMembers (service : Service) (members : String → Except ClientError BoundLister) : Service :=
  { service with targets := { service.targets with member := members } }

/-- What the overview shows when none of its kinds fails critically, whatever the members do: they
only add to the Argo CD counts. -/
theorem overview_withMembers (hplane : service.targets.controlPlane identity = .ok bound)
    (hmembers : (service.memberPart bound identity.username scope now).value = .ok (some members))
    (hresources : (resourcePart bound scope now).value = .ok resources)
    (reached : String → Except ClientError BoundLister) :
    ((service.withMembers reached).overview identity scope now).value =
      .success (Overview.toJson
        { controller := (service.controller? scope now).value
          members
          resources
          argo := .total
            ((bound.lister.readyClusters service.gate identity.username scope now).map fun name =>
              .ofMember (reached name) scope
                (service.partsEnd bound identity.username scope now)) }) := by
  have hready : members.ready =
      bound.lister.readyClusters service.gate identity.username scope now :=
    ready_of_memberSummary hmembers
  -- a member that cannot be reached is left out of the sum, which is to add nothing to it
  have hadds : ∀ (start : Nat) (name : String),
      ((reached name).toOption.map fun member => member.counts scope start).getD .zero =
        .ofMember (reached name) scope start := by
    intro start name
    cases reached name with
    | error error => rfl
    | ok member => exact (ArgoCounts.ofMember_ok member scope start).symm
  have hargo : ∀ start, (argoCounts ((service.withMembers reached).readyListers members) scope
      start).value = .total
        ((bound.lister.readyClusters service.gate identity.username scope now).map fun name =>
          .ofMember (reached name) scope start) := by
    intro start
    rw [argoCounts_value, readyListers, ArgoCounts.total_filterMap, hready]
    simp only [withMembers, hadds]
  -- the control plane and the controller manager are those of the service
  have hplane' : (service.withMembers reached).targets.controlPlane identity = .ok bound := hplane
  rw [overview_of_ok hplane' hmembers hresources]
  simp only [hargo]
  rfl

/-! ## What settles the answer -/

/-- What becomes of listing a kind on the control plane: its own reply if that comes within the time
that a request may take, and otherwise a timeout. -/
def listing (service : Service) (bound : BoundLister) (kind : ResourceKind) : ListOutcome :=
  .ofTimely kind false ((bound.lister.list kind .all).timely? (· ≤ service.requestTimeout))

/-- That is what becomes of it for an overview, whenever that is asked for. -/
theorem outcome_eq_listing (service : Service) (bound : BoundLister) (request : HttpRequest)
    (now : Nat) :
    bound.lister.outcome .all (service.servingScope request now)
      (service.caller request now).finish = service.listing bound := by
  funext kind
  rw [Lister.outcome, timely?_servingScope, isCancelled_servingScope, listing]

/-- The members that add to the Argo CD counts: those that are listed, accessible and ready. -/
def contributors (service : Service) (identity : Identity) (bound : BoundLister)
    (request : HttpRequest) (now : Nat) : List String :=
  bound.lister.readyClusters service.gate identity.username (service.servingScope request now)
    (service.caller request now).finish

/-- What a member adds to the Argo CD counts of an overview that is asked for at `now`. The members
are asked when the parts of the overview are over. -/
def contribution (service : Service) (identity : Identity) (bound : BoundLister)
    (request : HttpRequest) (now : Nat) (member : Except ClientError BoundLister) : ArgoCounts :=
  .ofMember member (service.servingScope request now)
    (service.partsEnd bound identity.username (service.servingScope request now)
      (service.caller request now).finish)

/-- What the answer to a request for the overview is settled by, when the control plane is reached
for it. -/
structure SettlesOverview (service : Service) (identity : Identity) (bound : BoundLister)
    (request : HttpRequest) (now : Nat) : Prop where
  /-- It is a success exactly if neither the clusters nor any resources of the control plane fail
  critically. -/
  succeeds : (service.respond request now).value.status = 200 ↔
    ∀ kind ∈ overviewKinds, ¬ (service.listing bound kind).IsCritical
  /-- Otherwise it is the failure of the clusters, or else of the first resources to fail. -/
  fails : ∀ earlier kind later failure, overviewKinds = earlier ++ kind :: later →
    (∀ other ∈ earlier, ¬ (service.listing bound other).IsCritical) →
    service.listing bound kind = .error failure → failure.isCritical = true →
    (service.respond request now).value =
      .envelope failure.kind.responseStatus failure.text .null
  /-- The controller manager is left out exactly if it cannot be reached, or its version output or
  its deployment fails or is late. -/
  manager : (∀ kind ∈ overviewKinds, ¬ (service.listing bound kind).IsCritical) →
    ((service.respond request now).value.part? "karmadaInfo" = some .null ↔
      service.ManagerFails)
  /-- Whatever the members do, each contributor adds what it counts itself, in whatever order they
  come. Who contributes, and when they are asked, depends on none of them. -/
  members : (∀ kind ∈ overviewKinds, ¬ (service.listing bound kind).IsCritical) →
    ∀ (reached : String → Except ClientError BoundLister) (order : List String),
      order.Perm (service.contributors identity bound request now) →
      ((service.withMembers reached).respond request now).value.part? "argoMetrics" =
        some (ArgoCounts.total (order.map fun name =>
          service.contribution identity bound request now (reached name))).toJson

/-- With other members the same request for the overview is admitted. -/
theorem Admitted.withMembers (h : service.Admitted .overview identity request now)
    (reached : String → Except ClientError BoundLister) :
    (service.withMembers reached).Admitted .overview identity request now :=
  ⟨h.atRoute, h.known, rfl, h.reads⟩

/-- Of the parts of the page that about the controller manager is empty exactly if it is not
known. -/
theorem part?_karmadaInfo_eq_null_iff (page : Overview) :
    (HttpResponse.success page.toJson).part? "karmadaInfo" = some .null ↔
      page.controller = none := by
  have hpart : (HttpResponse.success page.toJson).part? "karmadaInfo" =
      some ((page.controller.map ControllerInfo.toJson).getD .null) := rfl
  rw [hpart, Option.some.injEq]
  cases page.controller with
  | none => exact iff_of_true rfl rfl
  | some info => exact iff_of_false (fun h => nomatch h) (fun h => nomatch h)

/-- The page that is shown when nothing fails critically, whatever the members do. -/
theorem exists_page (h : service.Admitted .overview identity request now)
    (hplane : service.targets.controlPlane identity = .ok bound) (hget : request.method = "GET")
    (hcounts : service.CountsMembers identity bound request now)
    (hmild : ∀ kind ∈ overviewKinds, ¬ (service.listing bound kind).IsCritical)
    (reached : String → Except ClientError BoundLister) :
    ∃ page : Overview,
      ((service.withMembers reached).respond request now).value = .success page.toJson ∧
      page.controller = (service.controller? (service.servingScope request now)
        (service.caller request now).finish).value ∧
      page.argo = .total ((service.contributors identity bound request now).map fun name =>
        service.contribution identity bound request now (reached name)) := by
  have hlisted : ∀ kind ∈ overviewKinds,
      ¬ (bound.lister.outcome .all (service.servingScope request now)
        (service.caller request now).finish kind).IsCritical := by
    rw [outcome_eq_listing]
    exact hmild
  obtain ⟨members, resources, hmembers, hresources⟩ := parts_of_mild hcounts hlisted
  have hoverview := overview_withMembers hplane hmembers hresources reached
  rw [respond_value_of_admitted hget (h.withMembers reached), work_overview]
  exact ⟨_, hoverview, rfl, rfl⟩

end Service

end FleetDashboard
