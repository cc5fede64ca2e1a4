import FleetDashboard.Proofs.Api.Overview
import FleetDashboard.Proofs.Api.Refusal
import FleetDashboard.Proofs.Overview.HiddenClusters

/-!
# The overview keeps hidden clusters to itself

Whatever is changed about clusters that the caller may not access, be it what the control plane says
of their state or what they would answer themselves, the overview stays as it is. They are left out
of the summary, so they are not among the members that are ready, and no other member is asked for
Argo CD objects.

* `Targets.AgreeBut`: two sets of targets that differ in hidden clusters only.
* `Service.Allows`: the gate allows a cluster when the clusters have been listed.
* `Service.overview_congr`: the run of the overview does not depend on hidden clusters.
* `Service.respond_of_agree`: so does no response to a request for it.
-/

namespace FleetDashboard

/-- Two sets of targets that differ in hidden clusters only: in what the control plane says of them,
and in what they answer themselves. -/
structure Targets.AgreeBut (hidden : String → Prop) (targets others : Targets) : Prop where
  /-- The controller manager is the same. -/
  manager : others.manager = targets.manager
  /-- A control plane that cannot be reached is out of reach in the same way. -/
  unreached : ∀ identity error, targets.controlPlane identity = .error error →
    others.controlPlane identity = .error error
  /-- One that can be reached can be reached at the same target, and says the same but of hidden
  clusters. -/
  reached : ∀ identity bound, targets.controlPlane identity = .ok bound →
    ∃ other, others.controlPlane identity = .ok other ∧ other.target = bound.target ∧
      bound.lister.AgreesBut hidden other.lister
  /-- Members that are not hidden are the same. -/
  member : ∀ name, ¬ hidden name → others.member name = targets.member name

namespace Service

variable {service : Service} {others : Targets} {hidden : String → Prop} {route : Route}
  {identity : Identity} {bound other : BoundLister} {user : Option String} {scope : Scope}
  {members : MemberSummary} {request : HttpRequest} {now : Nat}

/-- The gate allows a cluster in the check that begins when the clusters have been listed. -/
def Allows (service : Service) (bound : BoundLister) (user : Option String) (scope : Scope)
    (now : Nat) (name : String) : Prop :=
  (service.gate.check user name scope (bound.lister.gather [.cluster] .all scope now).finish :
    Run Call _).value = .ok .allow

/-! ## Parts -/

theorem read_congr {α : Type} {work : Lister → Task Call α} (htarget : other.target = bound.target)
    (hwork : work other.lister now = work bound.lister now) :
    read other work now = read bound work now := by
  ext1 <;>
    simp only [read, BoundLister.run, Task.mapLog_value, Task.mapLog_finish, Task.mapLog_log,
      hwork, htarget]

theorem controller?_targets (hmanager : others.manager = service.targets.manager)
    (scope : Scope) :
    { service with targets := others }.controller? scope = service.controller? scope := by
  rw [controller?, controller?, hmanager]

/-- The part about the member clusters does not depend on hidden clusters. -/
theorem memberPart_congr (htarget : other.target = bound.target)
    (hlister : bound.lister.AgreesBut hidden other.lister)
    (hhidden : ∀ name, hidden name → ¬ service.Allows bound user scope now name) :
    service.memberPart other user scope now = service.memberPart bound user scope now :=
  read_congr htarget (memberSummary_congr hlister hhidden)

theorem resourcePart_congr (htarget : other.target = bound.target)
    (hlister : bound.lister.AgreesBut hidden other.lister) (scope : Scope) (now : Nat) :
    resourcePart other scope now = resourcePart bound scope now := by
  refine read_congr htarget ?_
  have hkinds : ∀ kind ∈ ResourceSummary.kinds,
      other.lister.list kind .all = bound.lister.list kind .all := by
    intro kind hkind
    -- clusters are not among the resources that are counted
    refine hlister.others kind .all ?_
    rintro rfl
    exact absurd hkind (by decide)
  rw [resourceSummary, resourceSummary, Lister.gather_congr hkinds]

/-- The parts that are looked up side by side do not depend on hidden clusters. -/
theorem overviewParts_congr (hmanager : others.manager = service.targets.manager)
    (htarget : other.target = bound.target)
    (hlister : bound.lister.AgreesBut hidden other.lister)
    (hhidden : ∀ name, hidden name → ¬ service.Allows bound user scope now name) :
    { service with targets := others }.overviewParts other user scope now =
      service.overviewParts bound user scope now := by
  have hmembers := memberPart_congr htarget hlister hhidden
  have hresources := resourcePart_congr htarget hlister scope now
  unfold memberPart at hmembers
  unfold resourcePart at hresources
  rw [overviewParts, overviewParts, controller?_targets hmanager, Task.both_run, Task.both_run,
    Task.both_run, Task.both_run, hmembers, hresources]

/-- Members that are ready are not hidden, so the same ones are reached. -/
theorem readyListers_congr
    (hmembers : (service.memberPart bound user scope now).value = .ok (some members))
    (hhidden : ∀ name, hidden name → ¬ service.Allows bound user scope now name)
    (hmember : ∀ name, ¬ hidden name → others.member name = service.targets.member name) :
    { service with targets := others }.readyListers members = service.readyListers members := by
  refine List.filterMap_congr fun name hready => ?_
  have hallows : service.Allows bound user scope now name :=
    check_listed_of_mem_ready hmembers hready
  rw [hmember name fun hname => hhidden name hname hallows]

/-! ## The overview -/

/-- The run of the overview does not depend on hidden clusters, if the gate allows none of them. -/
theorem overview_congr (hagree : service.targets.AgreeBut hidden others)
    (hhidden : ∀ bound name, service.targets.controlPlane identity = .ok bound → hidden name →
      ¬ service.Allows bound identity.username scope now name) :
    { service with targets := others }.overview identity scope now =
      service.overview identity scope now := by
  cases hplane : service.targets.controlPlane identity with
  | error error =>
    have hplane' : { service with targets := others }.targets.controlPlane identity =
        .error error := hagree.unreached identity error hplane
    rw [overview_of_unreached hplane, overview_of_unreached hplane']
  | ok bound =>
    obtain ⟨other, hplane', htarget, hlister⟩ := hagree.reached identity bound hplane
    replace hplane' : { service with targets := others }.targets.controlPlane identity =
      .ok other := hplane'
    have hhidden' := fun name => hhidden bound name hplane
    have hparts := overviewParts_congr hagree.manager htarget hlister hhidden'
    have hend : { service with targets := others }.partsEnd other identity.username scope now =
        service.partsEnd bound identity.username scope now := by
      rw [partsEnd, partsEnd, hparts]
    have hmemberPart : { service with targets := others }.memberPart other identity.username scope
        now = service.memberPart bound identity.username scope now :=
      memberPart_congr htarget hlister hhidden'
    have hresourcePart := resourcePart_congr htarget hlister scope now
    -- with the same parts, the overview fails in the same way or goes on with the same members
    rcases hmembers : (service.memberPart bound identity.username scope now).value with
      error | (_ | members)
    · have hmembers' := hmembers
      rw [← hmemberPart] at hmembers'
      rw [overview_of_failed hplane (Or.inl hmembers),
        overview_of_failed hplane' (Or.inl hmembers'), hparts, hend]
    · have hmembers' := hmembers
      rw [← hmemberPart] at hmembers'
      rw [overview_of_uncounted hplane hmembers, overview_of_uncounted hplane' hmembers', hparts,
        hend]
    · have hmembers' := hmembers
      rw [← hmemberPart] at hmembers'
      cases hresources : (resourcePart bound scope now).value with
      | error error =>
        have hresources' := hresources
        rw [← hresourcePart] at hresources'
        rw [overview_of_failed hplane (Or.inr ⟨⟨_, hmembers⟩, hresources⟩),
          overview_of_failed hplane' (Or.inr ⟨⟨_, hmembers'⟩, hresources'⟩), hparts, hend]
      | ok resources =>
        have hresources' := hresources
        rw [← hresourcePart] at hresources'
        rw [overview_of_ok hplane hmembers hresources, overview_of_ok hplane' hmembers' hresources',
          hparts, hend, controller?_targets hagree.manager,
          readyListers_congr hmembers hhidden' hagree.member]

/-! ## Responses -/

/-- With other targets a request gets the same response if, where it is admitted, the same work is
done for it. -/
theorem respond_congr_of_work (hroute : Location.ofPath? request.path = some (.api route))
    (hwork : ∀ identity, service.Admitted route identity request now →
      { service with targets := others }.work route identity request now =
        service.work route identity request now) :
    { service with targets := others }.respond request now = service.respond request now := by
  -- neither authentication nor the decision on access looks at the targets
  rcases service.doors hroute now with
    ⟨error, hcaller⟩ | ⟨identity, hcaller, ⟨response, hrefused⟩ | ⟨hallowed, hread⟩ | h⟩
  · have hcaller' : ({ service with targets := others }.caller request now).value =
        .error error := hcaller
    rw [respond_of_unauthenticated hroute hcaller, respond_of_unauthenticated hroute hcaller']
    rfl
  · have hcaller' : ({ service with targets := others }.caller request now).value =
        .ok identity := hcaller
    have hrefused' := hrefused
    rw [← admittance_targets service others] at hrefused'
    rw [respond_of_refused hroute hcaller hrefused, respond_of_refused hroute hcaller' hrefused',
      admittance_targets]
    rfl
  · have hcaller' : ({ service with targets := others }.caller request now).value =
        .ok identity := hcaller
    have hallowed' := hallowed
    rw [← admittance_targets service others] at hallowed'
    rw [respond_of_unread hroute hcaller hallowed hread,
      respond_of_unread hroute hcaller' hallowed' hread, admittance_targets]
    rfl
  · rw [respond_of_admitted h, respond_of_admitted (h.with_targets others), hwork identity h]
    rfl

/-- A request for the overview is answered in the same way, in every respect and at the same time,
whatever is changed about clusters that the gate does not allow its caller. -/
theorem respond_of_agree (service : Service) (others : Targets) (hidden : String → Prop)
    (request : HttpRequest) (now : Nat)
    (hroute : Location.ofPath? request.path = some (.api .overview))
    (hagree : service.targets.AgreeBut hidden others)
    (hhidden : ∀ identity bound name, (service.caller request now).value = .ok identity →
      service.targets.controlPlane identity = .ok bound → hidden name →
      ¬ service.Allows bound identity.username (service.servingScope request now)
        (service.caller request now).finish name) :
    { service with targets := others }.respond request now = service.respond request now := by
  refine respond_congr_of_work hroute fun identity hadmitted => ?_
  rw [work_overview, work_overview]
  exact overview_congr hagree fun bound name hplane =>
    hhidden identity bound name hadmitted.known hplane

/-- What a control plane with two member clusters says: `member1` is ready, and the state of
`member2` is given. -/
def twoClusters (status : Json) : Lister :=
  let cluster (name : String) (status : Json) : ApiObject :=
    { typeFields := []
      metadata := { Metadata.empty with name := some name }
      content := [("status", status)] }
  let ready : Json := .obj [("conditions",
    .arr [.obj [("type", .str "Ready"), ("status", .str "True")]])]
  { list := fun kind _ => .done (.answer (
      if kind = .cluster then [cluster "member1" ready, cluster "member2" status] else []))
    get := fun _ _ name => .done (.error (.plain .notFound name)) }

/-- Targets with those clusters, of which the first answers with nothing and the second as given. -/
def twoMembers (status : Json) (second : Except ClientError BoundLister) : Targets where
  controlPlane _ := .ok { target := .controlPlane, lister := twoClusters status }
  member name :=
    if name = "member2" then second
    else .ok {
      target := .member name
      lister := {
        list := fun _ _ => .done (.answer [])
        get := fun _ _ name => .done (.error (.plain .notFound name)) } }
  management := .error (.notInitialized "api-server")
  manager := .error (.notInitialized "api-server")
  isReady := false

/-- Such targets agree but for `member2`. -/
theorem agreeBut_twoMembers (status status' : Json)
    (second second' : Except ClientError BoundLister) :
    (twoMembers status second).AgreeBut (· = "member2") (twoMembers status' second') where
  manager := rfl
  unreached := by
    rintro identity error ⟨⟩
  reached := by
    rintro identity bound ⟨⟩
    refine ⟨_, rfl, rfl, ?_, ?_⟩
    · intro wanted
      refine .after 0 (.answer (.cons ?_ (.cons ?_ .nil)))
      · exact ⟨⟨"member1", rfl, rfl⟩, fun _ => rfl⟩
      · exact ⟨⟨"member2", rfl, rfl⟩, fun hshown => absurd rfl hshown⟩
    · intro kind wanted hkind
      simp only [twoClusters, if_neg hkind]
  member := by
    intro name hname
    simp only [twoMembers, if_neg hname]

/-- A service before such targets, whose policy grants `alice` the first member only. -/
def ofTwoMembers (targets : Targets) : Service :=
  { targets
    authenticator := { store := none, resolver := none, lookupTimeout := 5000 }
    gate := {
      policy := some fun user cluster => .done (.ok (user = "alice" && cluster = "member1"))
      timeout := 5000 }
    pageCap := 1000
    requestTimeout := 30000 }

/-- `alice` gets the overview, and it is the same whether the second member has no state and cannot
be reached, or its state makes no sense and it never answers. -/
theorem respond_of_agree_twoMembers :
    let silent : BoundLister :=
      { target := .member "member2"
        lister := { list := fun _ _ => .never, get := fun _ _ _ => .never } }
    let targets := twoMembers .null (.error (.config "unknown member"))
    let others := twoMembers (.str "Ready") (.ok silent)
    targets.AgreeBut (· = "member2") others ∧
      ((ofTwoMembers targets).respond (overviewBy (some "alice")) 0).value.status = 200 ∧
      (ofTwoMembers others).respond (overviewBy (some "alice")) 0 =
        (ofTwoMembers targets).respond (overviewBy (some "alice")) 0 := by
  intro silent targets others
  have hagree : targets.AgreeBut (· = "member2") others := agreeBut_twoMembers _ _ _ _
  have hroute : Location.ofPath? (overviewBy (some "alice")).path = some (.api .overview) := by
    decide +kernel
  refine ⟨hagree, by decide +kernel, ?_⟩
  refine respond_of_agree (ofTwoMembers targets) others (· = "member2")
    (overviewBy (some "alice")) 0 hroute hagree ?_
  -- the policy denies `alice` the second member, whatever that one is like
  rintro identity bound name hcaller hplane rfl hallows
  let alice : Impersonation := { user := "alice", groups := [], extra := [] }
  have hknown : ((ofTwoMembers targets).caller (overviewBy (some "alice")) 0).value =
      .ok ((Identity.ofToken "token").impersonating alice) := rfl
  rw [hknown, Except.ok.injEq] at hcaller
  cases hcaller
  cases hplane
  cases hallows

end Service

end FleetDashboard
