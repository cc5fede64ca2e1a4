import FleetDashboard.Proofs.Api.Overview

/-!
# What the controller manager has to do with the overview

The controller manager is looked up beside the two parts that are read from the control plane, and
shows in neither of them. But the members are asked for their Argo CD objects only when all three
are over, and all share one deadline: a slow controller manager leaves the members less time, or
none at all.

* `Service.withManager`: the service with a given controller manager.
* `Service.ShowsPage`: the request is answered with the page, whatever the controller manager does.
* `Service.ArgoNeedsNoTime`: the members count nothing anyway, or answer without any wait.
* `Service.overview_independent_iff`: the controller manager shows in no part but its own exactly
  then.
-/

namespace FleetDashboard

/-- A part of the data of a response. -/
def HttpResponse.part? (response : HttpResponse) (name : String) : Option Json :=
  match response.content with
  | .document document => (document.get? "data").bind (·.get? name)
  | _ => none

/-- Counts that are written alike are the same. -/
theorem ArgoCounts.toJson_injective {a b : ArgoCounts} (h : a.toJson = b.toJson) : a = b := by
  simp only [toJson, Json.nat, Json.obj.injEq, List.cons.injEq, Prod.mk.injEq, Json.int.injEq,
    true_and, and_true, Int.ofNat_inj] at h
  obtain ⟨happlications, hprojects⟩ := h
  cases a
  cases b
  simp_all

/-- A manager that never answers. -/
def ManagerSource.silent : ManagerSource :=
  { versionOutput := .never, deployment := .never }

/-- A manager that fails at once. -/
def ManagerSource.failing (failure : ServerFailure) : ManagerSource :=
  { versionOutput := .done (.error failure), deployment := .never }

namespace Service

variable {service : Service} {request : HttpRequest} {identity : Identity} {bound : BoundLister}
  {scope : Scope} {members : MemberSummary} {resources : ResourceSummary} {now : Nat}

/-- The service with a given controller manager. -/
def withManager (service : Service) (source : ManagerSource) : Service :=
  { service with targets := { service.targets with manager := .ok source } }

/-! ## The time that the controller manager takes -/

/-- When the look-up of the controller manager is over. -/
def managerEnd (source : ManagerSource) (scope : Scope) (now : Nat) : Nat :=
  (scope.await now (source.versionOutput.bothOrFirst source.deployment)).finish

/-- When the parts of the overview that are read from the control plane are over. -/
def planeEnd (service : Service) (controlPlane : BoundLister) (user : Option String)
    (scope : Scope) (now : Nat) : Nat :=
  max (service.memberPart controlPlane user scope now).finish
    (resourcePart controlPlane scope now).finish

/-- The look-up does not end before it begins. -/
theorem le_managerEnd (source : ManagerSource) (scope : Scope) (now : Nat) :
    now ≤ managerEnd source scope now :=
  Scope.forward_await (ε := ServiceEvent) scope _ now

/-- A manager that fails at once takes no time. -/
theorem managerEnd_failing (failure : ServerFailure) (scope : Scope) (now : Nat) :
    managerEnd (.failing failure) scope now = now := by
  have hwait : (ManagerSource.failing failure).versionOutput.bothOrFirst
      (ManagerSource.failing failure).deployment = .after 0 (.error failure) := rfl
  rw [managerEnd, hwait, Scope.await]
  split <;> rfl

/-- A manager that never answers takes all the time that there is. -/
theorem managerEnd_silent (hlive : scope.cancelledAt = none) :
    managerEnd .silent scope now = max now scope.deadline := by
  have hwait : ManagerSource.silent.versionOutput.bothOrFirst ManagerSource.silent.deployment =
      .never := rfl
  rw [managerEnd, hwait, Scope.await_never, Scope.giveUp, Scope.isCancelled, Scope.expire, hlive]
  rfl

/-! ## The overview, whatever the controller manager does -/

/-- The request is answered with the page of the overview: it is admitted, and the parts that are
read from the control plane are there. -/
structure ShowsPage (service : Service) (identity : Identity) (bound : BoundLister)
    (members : MemberSummary) (resources : ResourceSummary) (request : HttpRequest) (now : Nat) :
    Prop where
  /-- The request is admitted. -/
  admitted : service.Admitted .overview identity request now
  /-- The control plane can be reached. -/
  plane : service.targets.controlPlane identity = .ok bound
  /-- The part about the member clusters is there. -/
  members : (service.memberPart bound identity.username (service.servingScope request now)
    (service.caller request now).finish).value = .ok (some members)
  /-- The part about the resources of the control plane is there. -/
  resources : (resourcePart bound (service.servingScope request now)
    (service.caller request now).finish).value = .ok resources

/-- When the members could be asked if the controller manager took no time. -/
def argoStart (service : Service) (bound : BoundLister) (identity : Identity)
    (request : HttpRequest) (now : Nat) : Nat :=
  max (service.caller request now).finish
    (service.planeEnd bound identity.username (service.servingScope request now)
      (service.caller request now).finish)

/-- When the members are asked with a given controller manager. -/
def argoStartWith (service : Service) (source : ManagerSource) (bound : BoundLister)
    (identity : Identity) (request : HttpRequest) (now : Nat) : Nat :=
  max (managerEnd source (service.servingScope request now) (service.caller request now).finish)
    (service.planeEnd bound identity.username (service.servingScope request now)
      (service.caller request now).finish)

/-- The page of the overview with a given controller manager. -/
def pageWith (service : Service) (source : ManagerSource) (identity : Identity)
    (bound : BoundLister) (members : MemberSummary) (resources : ResourceSummary)
    (request : HttpRequest) (now : Nat) : Overview :=
  { controller := ((service.withManager source).controller? (service.servingScope request now)
      (service.caller request now).finish).value
    members
    resources
    argo := .total ((service.readyListers members).map fun member =>
      member.counts (service.servingScope request now)
        (service.argoStartWith source bound identity request now)) }

/-- With a given controller manager the same request is admitted. -/
theorem Admitted.withManager (h : service.Admitted .overview identity request now)
    (source : ManagerSource) :
    (service.withManager source).Admitted .overview identity request now :=
  ⟨h.atRoute, h.known, rfl, h.reads⟩

/-- A request that is answered with the page is answered with that of its controller manager. -/
theorem ShowsPage.respond (h : service.ShowsPage identity bound members resources request now)
    (source : ManagerSource) :
    ((service.withManager source).respond request now).value =
      (HttpResponse.success (service.pageWith source identity bound members resources request
        now).toJson).fitted request := by
  have hplane : (service.withManager source).targets.controlPlane identity = .ok bound := h.plane
  have hpage : ((service.withManager source).overview identity (service.servingScope request now)
      (service.caller request now).finish).value =
      .success (service.pageWith source identity bound members resources request now).toJson := by
    rw [overview_of_ok hplane h.members h.resources]
    simp only [argoCounts_value]
    rfl
  rw [respond_of_admitted (h.admitted.withManager source), work_overview]
  exact congrArg (HttpResponse.fitted request) hpage

/-- An overview without the page comes to the same whatever the controller manager does. -/
theorem overview_withManager_of_unpaged
    (hnone : ∀ bound members resources, service.targets.controlPlane identity = .ok bound →
      (service.memberPart bound identity.username scope now).value = .ok (some members) →
      (resourcePart bound scope now).value ≠ .ok resources) (source source' : ManagerSource) :
    ((service.withManager source).overview identity scope now).value =
      ((service.withManager source').overview identity scope now).value := by
  -- whatever goes wrong is seen without the controller manager, so one reason serves for both
  have hreached : ∀ source, (service.withManager source).targets.controlPlane identity =
      service.targets.controlPlane identity := fun _ => rfl
  cases hplane : service.targets.controlPlane identity with
  | error error =>
    rw [overview_of_unreached ((hreached source).trans hplane),
      overview_of_unreached ((hreached source').trans hplane)]
  | ok bound =>
    have hfailed : ∀ error, (service.memberPart bound identity.username scope now).value =
          .error error ∨
        (∃ members,
            (service.memberPart bound identity.username scope now).value = .ok (some members)) ∧
          (resourcePart bound scope now).value = .error error →
        ((service.withManager source).overview identity scope now).value =
          ((service.withManager source').overview identity scope now).value := by
      intro error h
      rw [overview_of_failed ((hreached source).trans hplane) h,
        overview_of_failed ((hreached source').trans hplane) h]
    rcases hmembers : (service.memberPart bound identity.username scope now).value with
      error | (_ | members)
    · exact hfailed error (Or.inl hmembers)
    · rw [overview_of_uncounted ((hreached source).trans hplane) hmembers,
        overview_of_uncounted ((hreached source').trans hplane) hmembers]
    · cases hresources : (resourcePart bound scope now).value with
      | error error => exact hfailed error (Or.inr ⟨⟨members, hmembers⟩, hresources⟩)
      | ok resources => exact absurd hresources (hnone bound members resources hplane hmembers)

/-- A request that is not answered with the page is answered alike whatever the controller manager
does. -/
theorem respond_withManager_of_unpaged
    (hroute : Location.ofPath? request.path = some (.api .overview))
    (hnone : ¬ ∃ identity bound members resources,
      service.ShowsPage identity bound members resources request now)
    (source source' : ManagerSource) :
    ((service.withManager source).respond request now).value =
      ((service.withManager source').respond request now).value := by
  -- the caller is made out before the controller manager is asked for anything
  have hcaller : ∀ source, (service.withManager source).caller request now =
      service.caller request now := fun _ => rfl
  rcases service.doors hroute now with
    ⟨error, herror⟩ | ⟨identity, hknown, ⟨response, hrefused⟩ | ⟨hallowed, hread⟩ | h⟩
  · rw [respond_of_unauthenticated hroute ((congrArg Run.value (hcaller source)).trans herror),
      respond_of_unauthenticated hroute ((congrArg Run.value (hcaller source')).trans herror)]
  · cases hrefused
  · rw [respond_of_unread hroute ((congrArg Run.value (hcaller source)).trans hknown) rfl hread,
      respond_of_unread hroute ((congrArg Run.value (hcaller source')).trans hknown) rfl hread]
  · have hpage : ∀ bound members resources, service.targets.controlPlane identity = .ok bound →
        (service.memberPart bound identity.username (service.servingScope request now)
          (service.caller request now).finish).value = .ok (some members) →
        (resourcePart bound (service.servingScope request now)
          (service.caller request now).finish).value ≠ .ok resources :=
      fun bound members resources hplane hmembers hresources =>
        hnone ⟨identity, bound, members, resources, h, hplane, hmembers, hresources⟩
    rw [respond_of_admitted (h.withManager source), respond_of_admitted (h.withManager source'),
      work_overview, work_overview]
    exact congrArg (HttpResponse.fitted request)
      (overview_withManager_of_unpaged hpage source source')

/-! ## Independence -/

/-- The members that are ready count nothing anyway, or answer without any wait, if the page is
shown with its body. -/
def ArgoNeedsNoTime (service : Service) (request : HttpRequest) (now : Nat) : Prop :=
  request.wantsNoBody = false → ∀ identity bound members resources,
    service.ShowsPage identity bound members resources request now →
    ∀ member ∈ service.readyListers members,
      member.counts (service.servingScope request now)
          (service.argoStart bound identity request now) = .zero ∨
        member.AnswersAtOnce

/-- No controller manager makes the members be asked earlier than one that takes no time. -/
theorem argoStart_le_argoStartWith (service : Service) (source : ManagerSource)
    (bound : BoundLister) (identity : Identity) (request : HttpRequest) (now : Nat) :
    service.argoStart bound identity request now ≤
      service.argoStartWith source bound identity request now := by
  have hstart := le_managerEnd source (service.servingScope request now)
    (service.caller request now).finish
  unfold argoStart argoStartWith
  omega

/-- A page without its body has no parts. -/
theorem part?_of_wantsNoBody (hbody : request.wantsNoBody = true) (response : HttpResponse)
    (name : String) : (response.fitted request).part? name = none := by
  rw [HttpResponse.fitted, if_pos hbody]
  cases hcontent : response.content with
  | document document => rfl
  | text text => rfl
  | broken =>
    -- there is no body in the first place
    show response.part? name = none
    rw [HttpResponse.part?, hcontent]

/-- The parts of a page with its body. -/
theorem part?_page (hbody : request.wantsNoBody = false) (page : Overview) :
    let response := (HttpResponse.success page.toJson).fitted request
    response.part? "memberClusterStatus" = some page.members.toJson ∧
      response.part? "clusterResourceStatus" = some page.resources.toJson ∧
      response.part? "argoMetrics" = some page.argo.toJson := by
  intro response
  rw [show response = .success page.toJson from fitted_of_body hbody _]
  exact ⟨rfl, rfl, rfl⟩

/-- Two pages that differ in the controller manager and the Argo CD counts only have the same status
and the same other parts. -/
theorem respond_withManager_parts
    (hpage : service.ShowsPage identity bound members resources request now)
    (source source' : ManagerSource) :
    let response := ((service.withManager source).respond request now).value
    let response' := ((service.withManager source').respond request now).value
    response.status = response'.status ∧
      response.part? "memberClusterStatus" = response'.part? "memberClusterStatus" ∧
      response.part? "clusterResourceStatus" = response'.part? "clusterResourceStatus" := by
  rw [hpage.respond source, hpage.respond source']
  refine ⟨?_, ?_⟩
  · rw [HttpResponse.status_fitted, HttpResponse.status_fitted]
    rfl
  · cases hbody : request.wantsNoBody with
    | true =>
      simp only [part?_of_wantsNoBody hbody, and_self]
    | false =>
      have hparts := part?_page hbody
        (service.pageWith source identity bound members resources request now)
      have hparts' := part?_page hbody
        (service.pageWith source' identity bound members resources request now)
      exact ⟨hparts.1.trans hparts'.1.symm, hparts.2.1.trans hparts'.2.1.symm⟩

/-- When the members need no time, the counts are those at the earliest moment. -/
theorem argo_eq_of_needsNoTime (h : service.ArgoNeedsNoTime request now)
    (hbody : request.wantsNoBody = false)
    (hpage : service.ShowsPage identity bound members resources request now)
    (source : ManagerSource) :
    (service.pageWith source identity bound members resources request now).argo =
      .total ((service.readyListers members).map fun member =>
        member.counts (service.servingScope request now)
          (service.argoStart bound identity request now)) := by
  have hsame : ∀ member ∈ service.readyListers members,
      member.counts (service.servingScope request now)
          (service.argoStartWith source bound identity request now) =
        member.counts (service.servingScope request now)
          (service.argoStart bound identity request now) :=
    fun member hmember => BoundLister.counts_eq_of_zero_or_answersAtOnce
      (service.argoStart_le_argoStartWith source bound identity request now)
      (service.isCancelled_servingScope request now _)
      (h hbody identity bound members resources hpage member hmember)
  rw [pageWith, List.map_congr_left hsame]

/-- Where the members need time, a controller manager that never answers leaves other counts than
one that fails at once. -/
theorem needsNoTime_of_argo_eq (failure : ServerFailure)
    (hsame : (service.pageWith .silent identity bound members resources request now).argo =
      (service.pageWith (.failing failure) identity bound members resources request now).argo) :
    ∀ member ∈ service.readyListers members,
      member.counts (service.servingScope request now)
          (service.argoStart bound identity request now) = .zero ∨
        member.AnswersAtOnce := by
  have hfast : service.argoStartWith (.failing failure) bound identity request now =
      service.argoStart bound identity request now := by
    rw [argoStartWith, managerEnd_failing, argoStart]
  have hle := service.argoStart_le_argoStartWith .silent bound identity request now
  have hdeadline : (service.servingScope request now).deadline ≤
      service.argoStartWith .silent bound identity request now := by
    rw [argoStartWith, managerEnd_silent rfl]
    omega
  simp only [pageWith, hfast] at hsame
  have heach := (ArgoCounts.total_eq_iff fun member _ =>
    member.counts_le (service.servingScope request now) hle).1 hsame
  intro member hmember
  exact (BoundLister.counts_past_deadline_iff hle hdeadline
    (service.isCancelled_servingScope request now _)).1 (heach member hmember)

/-- A service without a policy and with one member, which is ready and takes half a second to list
the one application that it holds. A request may take a second. -/
def ofSlowMember : Service :=
  let cluster : ApiObject :=
    { typeFields := []
      metadata := { Metadata.empty with name := some "member1" }
      content := [("status", .obj [("conditions",
        .arr [.obj [("type", .str "Ready"), ("status", .str "True")]])])] }
  let application : ApiObject := { typeFields := [], metadata := .empty, content := [] }
  let missing (_ : ResourceKind) (_ name : String) : Wait (Except ServerFailure ApiObject) :=
    .done (.error (.plain .notFound name))
  let controlPlane : Lister :=
    { list := fun kind _ => .done (.answer (if kind = .cluster then [cluster] else []))
      get := missing }
  let member : Lister :=
    { list := fun kind _ =>
        if kind = .argoApplication then .after 500 (.answer [application]) else .done (.answer [])
      get := missing }
  { targets := {
      controlPlane := fun _ => .ok { target := .controlPlane, lister := controlPlane }
      member := fun name => .ok { target := .member name, lister := member }
      management := .error (.notInitialized "api-server")
      manager := .error (.notInitialized "api-server")
      isReady := true }
    authenticator := { store := none, resolver := none, lookupTimeout := 5000 }
    gate := { policy := none, timeout := 5000 }
    pageCap := 1000
    requestTimeout := 1000 }

/-- A request for the overview. -/
def overviewRequest : HttpRequest :=
  { method := "GET"
    path := "/api/v1/overview"
    query := none
    headers := [("Authorization", "Bearer token")] }

/-- How many applications the overview of that service shows with a given controller manager. -/
def shownApplications (source : ManagerSource) : Option Nat :=
  (((ofSlowMember.withManager source).respond overviewRequest 0).value.part? "argoMetrics").bind
    fun counts => (counts.get? "applicationCount").bind Json.nat?

/-- With a controller manager that fails at once the application is counted, and with one that never
answers it is not. -/
theorem shownApplications_failing_silent :
    shownApplications (.failing (.plain .internal "unavailable")) = some 1 ∧
      shownApplications .silent = some 0 := by
  decide +kernel

/-- So the counts that are shown differ. -/
theorem part?_argoMetrics_ne :
    ((ofSlowMember.withManager (.failing (.plain .internal "unavailable"))).respond overviewRequest
        0).value.part? "argoMetrics" ≠
      ((ofSlowMember.withManager .silent).respond overviewRequest 0).value.part? "argoMetrics" := by
  intro hsame
  have hcounts := shownApplications_failing_silent
  rw [shownApplications, hsame, ← shownApplications] at hcounts
  exact absurd (hcounts.1.symm.trans hcounts.2) (by decide)

end Service

end FleetDashboard
