import FleetDashboard.Api.RegistryTargets
import FleetDashboard.Proofs.Outcome

/-!
# Runs of the client cache

The cache is used through nine operations, in any order. Whatever they are, a client that is kept
was built for the target under which it is kept, so that asking for a target never yields the client
of another one.

* `RegistryAction`: an operation on the cache.
* `ClientRegistry.act`, `ClientRegistry.run`: the cache after one operation, and after several.
* `ClientRegistry.KeyedByTarget`: every client is kept under its own target.
* `ClientRegistry.keyedByTarget_run`: so it is after every run.
* `ClientRegistry.target_of_obtain`, `ClientRegistry.target_of_member`: the target of a client that
  was asked for.
* `Targets.boundByName_ofRegistry`: the same for the listers of those clients.
-/

namespace FleetDashboard

/-- An operation on the client cache. -/
inductive RegistryAction where
  /-- The client of the control plane is asked for. -/
  | controlPlane
  /-- The client of the API server next to the dashboard is asked for. -/
  | apiServer
  /-- The client of a member cluster is asked for, by any text. -/
  | member (cluster : String)
  /-- A client that acts for a caller is asked for. -/
  | clientFor (identity : Identity)
  /-- The place of the fallback credential is asked for. -/
  | secretStore (inNamespace : String)
  /-- The client of a target is dropped. -/
  | invalidate (target : ClientTarget)
  /-- The client of a member is dropped. -/
  | invalidateMember (name : String)
  /-- All clients are dropped. -/
  | invalidateAll
  /-- The clients of the members that are not registered are dropped. -/
  | retain (registered : List String)

namespace ClientRegistry

variable {registry next : ClientRegistry} {handle : ClientHandle} {target : ClientTarget}
  {cluster : String}

/-- The cache after an operation. -/
def act (registry : ClientRegistry) : RegistryAction → ClientRegistry
  | .controlPlane => registry.keeping registry.controlPlane
  | .apiServer => registry.keeping registry.apiServer
  | .member cluster => registry.keeping (registry.member cluster)
  | .clientFor _ => registry
  | .secretStore _ => registry.keeping registry.apiServer
  | .invalidate target => (registry.invalidate target).2
  | .invalidateMember name => (registry.invalidateMember name).2
  | .invalidateAll => registry.invalidateAll
  | .retain registered => (registry.retain registered).2

/-- The cache after some operations, the earliest first. -/
def run (registry : ClientRegistry) (actions : List RegistryAction) : ClientRegistry :=
  actions.foldl act registry

/-- Every client is kept under the target that it was built for. -/
def KeyedByTarget (registry : ClientRegistry) : Prop :=
  ∀ entry ∈ registry.cache, entry.2.target = entry.1

/-! ## Asking for clients -/

/-- A client that is kept for a target is kept under it. -/
theorem mem_cache_of_cached? (h : registry.cached? target = some handle) :
    (target, handle) ∈ registry.cache := by
  unfold cached? at h
  obtain ⟨entry, hfind, rfl⟩ := Option.map_eq_some_iff.1 h
  have hkey := List.find?_some hfind
  rw [beq_iff_eq] at hkey
  subst hkey
  exact List.mem_of_find?_eq_some hfind

/-- A client is built for the target it is wanted for, and building leaves the cache as it is. -/
theorem construct_eq_ok (h : registry.construct target = .ok (handle, next)) :
    handle.target = target ∧ next.cache = registry.cache := by
  obtain ⟨connection, -, hrest⟩ := bind_eq_ok_iff.1 h
  obtain ⟨client, -, hbuilt⟩ := bind_eq_ok_iff.1 hrest
  cases hbuilt
  exact ⟨rfl, rfl⟩

/-- An offer hands out a client of the offered one's target, and keeps every client under its own
target. -/
theorem KeyedByTarget.offer (h : registry.KeyedByTarget) (handle : ClientHandle) :
    (registry.offer handle).1.target = handle.target ∧
      (registry.offer handle).2.KeyedByTarget := by
  unfold ClientRegistry.offer
  cases hcached : registry.cached? handle.target with
  | some kept => exact ⟨h _ (mem_cache_of_cached? hcached), h⟩
  | none =>
    refine ⟨rfl, ?_⟩
    intro entry hentry
    rcases List.mem_append.1 hentry with hold | hnew
    · exact h entry hold
    · rw [List.mem_singleton] at hnew
      rw [hnew]

/-- Asking for a target yields a client of that target, and keeps every client under its own. -/
theorem target_of_obtain (h : registry.KeyedByTarget)
    (hobtain : registry.obtain target = .ok (handle, next)) :
    handle.target = target ∧ next.KeyedByTarget := by
  unfold obtain at hobtain
  cases hcached : registry.cached? target with
  | some kept =>
    -- the client that is kept under the target
    simp only [hcached, Except.ok.injEq, Prod.mk.injEq] at hobtain
    obtain ⟨rfl, rfl⟩ := hobtain
    exact ⟨h _ (mem_cache_of_cached? hcached), h⟩
  | none =>
    -- a client that is built for the target and then offered, which may yield another one of it
    rw [hcached] at hobtain
    obtain ⟨⟨own, built⟩, hbuilt, hoffer⟩ := bind_eq_ok_iff.1 hobtain
    rw [pure_eq_ok_iff] at hoffer
    obtain ⟨htarget, hcache⟩ := construct_eq_ok hbuilt
    have hkeyed : built.KeyedByTarget := by
      intro entry hentry
      rw [hcache] at hentry
      exact h entry hentry
    obtain ⟨hown, hnext⟩ := hkeyed.offer own
    rw [hoffer] at hown hnext
    exact ⟨hown.trans htarget, hnext⟩

/-- Asking for a member yields a client of the target that its name stands for. -/
theorem target_of_member (h : registry.KeyedByTarget)
    (hmember : registry.member cluster = .ok (handle, next)) :
    handle.target = .ofCluster cluster ∧ next.KeyedByTarget := by
  unfold member at hmember
  -- one name stands for a target that is no member
  by_cases hname : cluster = managementCluster
  · rw [if_pos hname] at hmember
    rw [ClientTarget.ofCluster, if_pos hname]
    exact target_of_obtain h hmember
  · rw [if_neg hname] at hmember
    rw [ClientTarget.ofCluster, if_neg hname]
    obtain ⟨valid, -, hobtain⟩ := bind_eq_ok_iff.1 hmember
    exact target_of_obtain h hobtain

/-! ## Runs -/

/-- A registry without clients keeps nothing under a wrong target. -/
theorem keyedByTarget_ofConnections (connections : ConnectionStore) :
    (ofConnections connections).KeyedByTarget := by
  intro entry hentry
  cases hentry

/-- Dropping clients moves none of those that stay. -/
theorem KeyedByTarget.filter (h : registry.KeyedByTarget)
    (stays : ClientTarget × ClientHandle → Bool) :
    { registry with cache := registry.cache.filter stays }.KeyedByTarget :=
  fun entry hentry => h entry (List.mem_filter.1 hentry).1

/-- What is kept of an outcome keeps every client under its own target, if success does. -/
theorem KeyedByTarget.keeping (h : registry.KeyedByTarget)
    {outcome : Except ClientError (ClientHandle × ClientRegistry)}
    (hok : ∀ handle next, outcome = .ok (handle, next) → next.KeyedByTarget) :
    (registry.keeping outcome).KeyedByTarget := by
  cases outcome with
  | error error => exact h
  | ok asked => exact hok asked.1 asked.2 rfl

/-- Asking for a target, with or without success, keeps every client under its own target. -/
theorem KeyedByTarget.keeping_obtain (h : registry.KeyedByTarget) (target : ClientTarget) :
    (registry.keeping (registry.obtain target)).KeyedByTarget :=
  h.keeping fun _ _ hobtain => (target_of_obtain h hobtain).2

/-- Every operation keeps every client under its own target. -/
theorem KeyedByTarget.act (h : registry.KeyedByTarget) (action : RegistryAction) :
    (registry.act action).KeyedByTarget := by
  cases action with
  | controlPlane => exact h.keeping_obtain .controlPlane
  | apiServer => exact h.keeping_obtain .apiServer
  | member cluster => exact h.keeping fun _ _ hmember => (target_of_member h hmember).2
  | clientFor identity => exact h
  | secretStore inNamespace => exact h.keeping_obtain .apiServer
  | invalidate target => exact h.filter _
  | invalidateMember name => exact h.filter _
  | invalidateAll =>
    intro entry hentry
    cases hentry
  | retain registered => exact h.filter _

/-- Some operations keep every client under its own target. -/
theorem KeyedByTarget.run (h : registry.KeyedByTarget) (actions : List RegistryAction) :
    (registry.run actions).KeyedByTarget := by
  induction actions generalizing registry with
  | nil => exact h
  | cons action rest ih => exact ih (h.act action)

/-- Whatever was done with a registry, every client in it is kept under its own target. -/
theorem keyedByTarget_run (connections : ConnectionStore) (actions : List RegistryAction) :
    ((ofConnections connections).run actions).KeyedByTarget :=
  (keyedByTarget_ofConnections connections).run actions

end ClientRegistry

/-! ## Targets behind a registry -/

/-- Only the name of the management cluster stands for the API server next to the dashboard. -/
theorem ClientTarget.ofCluster_eq_apiServer_iff {cluster : String} :
    ClientTarget.ofCluster cluster = .apiServer ↔ cluster = managementCluster := by
  unfold ofCluster
  split
  next h => exact ⟨fun _ => h, fun _ => rfl⟩
  next h =>
    constructor
    · intro hmember
      cases hmember
    · intro hname
      exact absurd hname h

namespace Targets

/-- Every lister is bound to the target that it was asked for under. -/
structure BoundByName (targets : Targets) : Prop where
  /-- The control plane is bound to itself, for every caller. -/
  controlPlane : ∀ identity bound, targets.controlPlane identity = .ok bound →
    bound.target = .controlPlane
  /-- A member is bound to what its name stands for. -/
  member : ∀ cluster bound, targets.member cluster = .ok bound → bound.target = .ofCluster cluster

/-- The listers of a registry are bound to the targets that they are asked for under. -/
theorem boundByName_ofRegistry {registry : ClientRegistry} (transport : Transport)
    (hkeyed : registry.KeyedByTarget) : (ofRegistry registry transport).BoundByName where
  controlPlane := by
    intro identity bound h
    obtain ⟨client, -, hbound⟩ := bind_eq_ok_iff.1 h
    cases hbound
    rfl
  member := by
    intro cluster bound h
    obtain ⟨⟨handle, next⟩, hmember, hbound⟩ := bind_eq_ok_iff.1 h
    cases hbound
    exact (ClientRegistry.target_of_member hkeyed hmember).1

end Targets

end FleetDashboard
