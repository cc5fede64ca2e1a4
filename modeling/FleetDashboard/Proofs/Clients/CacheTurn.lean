import FleetDashboard.Proofs.Clients.CacheInvariant

/-!
# What becomes of the client cache at once

Whatever is done with the client cache, its entries turn into others in one of three ways: they stay
as they are, one more target gets a client, or some are dropped. So a target never has two clients,
and while it is there it has the one that it had.

* `CacheTurn`: the three ways; `CacheTurn.nodup`, `CacheTurn.keyed` and `CacheTurn.mem_of_mem`: what
  they keep.
* `ClientRegistry.cacheTurn_offer`, `ClientRegistry.cacheTurn_act`: offers and operations are among
  them.
-/

namespace FleetDashboard

/-- How the entries of the cache may turn into others at once: they stay as they are, one more
target gets a client, or some entries are dropped. -/
inductive CacheTurn (cache : List (ClientTarget × ClientHandle)) :
    List (ClientTarget × ClientHandle) → Prop
  /-- All stay. -/
  | same : CacheTurn cache cache
  /-- A target that had no client gets one. -/
  | grown (handle : ClientHandle) (hnew : handle.target ∉ cache.map (·.1)) :
      CacheTurn cache (cache ++ [(handle.target, handle)])
  /-- Some are dropped. -/
  | thinned (stays : ClientTarget × ClientHandle → Bool) : CacheTurn cache (cache.filter stays)

namespace CacheTurn

variable {cache next : List (ClientTarget × ClientHandle)} {target : ClientTarget}
  {handle : ClientHandle}

/-- No target gets a second client. -/
theorem nodup (h : CacheTurn cache next) (honce : (cache.map (·.1)).Nodup) :
    (next.map (·.1)).Nodup := by
  cases h with
  | same => exact honce
  | grown handle hnew =>
    rw [List.map_append, List.nodup_append]
    refine ⟨honce, List.nodup_singleton _, ?_⟩
    rintro old hold last hlast rfl
    rw [List.map_cons, List.map_nil, List.mem_singleton] at hlast
    rw [hlast] at hold
    exact hnew hold
  | thinned stays => exact honce.sublist (List.filter_sublist.map _)

/-- Every client stays under its own target. -/
theorem keyed (h : CacheTurn cache next) (hkeyed : ∀ entry ∈ cache, entry.2.target = entry.1) :
    ∀ entry ∈ next, entry.2.target = entry.1 := by
  intro entry hentry
  cases h with
  | same => exact hkeyed entry hentry
  | grown handle hnew =>
    rcases List.mem_append.1 hentry with hold | hlast
    · exact hkeyed entry hold
    · rw [List.mem_singleton.1 hlast]
  | thinned stays => exact hkeyed entry (List.mem_of_mem_filter hentry)

/-- A target that is still there has the client that it had. -/
theorem mem_of_mem (h : CacheTurn cache next) (honce : (cache.map (·.1)).Nodup)
    (hmem : (target, handle) ∈ cache) (hstays : target ∈ next.map (·.1)) :
    (target, handle) ∈ next := by
  cases h with
  | same => exact hmem
  | grown other hnew => exact List.mem_append_left _ hmem
  | thinned stays =>
    obtain ⟨entry, hentry, rfl⟩ := List.mem_map.1 hstays
    -- the entry that stays is the only one of its target
    have hcache := List.mem_of_mem_filter hentry
    have heq : entry = (entry.1, handle) := List.inj_on_of_nodup_map honce hcache hmem rfl
    rwa [← heq]

end CacheTurn

namespace ClientRegistry

variable {registry next : ClientRegistry} {target : ClientTarget} {handle : ClientHandle}

/-- With no target kept twice, the client that is kept for one is the one in its entry. -/
theorem cached?_eq_some_iff (honce : registry.targets.Nodup) :
    registry.cached? target = some handle ↔ (target, handle) ∈ registry.cache := by
  refine ⟨mem_cache_of_cached?, fun hmem => ?_⟩
  cases hcached : registry.cached? target with
  | none =>
    exact absurd (List.mem_map.2 ⟨_, hmem, rfl⟩) (not_mem_targets_of_cached?_eq_none hcached)
  | some kept =>
    have hkept := mem_cache_of_cached? hcached
    have heq : (target, kept) = (target, handle) := List.inj_on_of_nodup_map honce hkept hmem rfl
    rw [Prod.mk.injEq] at heq
    rw [heq.2]

/-- A client that is built has the next number, which is then used up. -/
theorem serial_of_construct (h : registry.construct target = .ok (handle, next)) :
    handle.serial = registry.nextSerial ∧
      next = { registry with nextSerial := registry.nextSerial + 1 } := by
  obtain ⟨connection, -, hrest⟩ := bind_eq_ok_iff.1 h
  obtain ⟨client, -, hbuilt⟩ := bind_eq_ok_iff.1 hrest
  cases hbuilt
  exact ⟨rfl, rfl⟩

/-- What an offer hands out is what is kept for the target then. -/
theorem cached?_offer (registry : ClientRegistry) (handle : ClientHandle) :
    (registry.offer handle).2.cached? handle.target = some (registry.offer handle).1 := by
  unfold offer
  cases hcached : registry.cached? handle.target with
  | some kept => exact hcached
  | none =>
    -- nothing before it is found for the target, so the new entry is
    rw [cached?, Option.map_eq_none_iff] at hcached
    simp [cached?, List.find?_append, hcached]

theorem cacheTurn_offer (registry : ClientRegistry) (handle : ClientHandle) :
    CacheTurn registry.cache (registry.offer handle).2.cache := by
  unfold offer
  cases hcached : registry.cached? handle.target with
  | some kept => exact .same
  | none => exact .grown handle (not_mem_targets_of_cached?_eq_none hcached)

theorem nextSerial_offer (registry : ClientRegistry) (handle : ClientHandle) :
    (registry.offer handle).2.nextSerial = registry.nextSerial := by
  unfold offer
  split <;> rfl

/-- Asking for a target adds one entry at most. -/
theorem cacheTurn_obtain (h : registry.obtain target = .ok (handle, next)) :
    CacheTurn registry.cache next.cache ∧ registry.nextSerial ≤ next.nextSerial := by
  unfold obtain at h
  cases hcached : registry.cached? target with
  | some kept =>
    rw [hcached] at h
    cases h
    exact ⟨.same, Nat.le_refl _⟩
  | none =>
    rw [hcached] at h
    -- building uses up a number and keeps nothing; what is kept is kept by the offer
    obtain ⟨⟨own, built⟩, hbuilt, hoffer⟩ := bind_eq_ok_iff.1 h
    rw [pure_eq_ok_iff] at hoffer
    obtain ⟨-, rfl⟩ := serial_of_construct hbuilt
    have hturn := cacheTurn_offer { registry with nextSerial := registry.nextSerial + 1 } own
    have hserial := nextSerial_offer { registry with nextSerial := registry.nextSerial + 1 } own
    rw [hoffer] at hturn hserial
    exact ⟨hturn, hserial ▸ Nat.le_succ _⟩

theorem cacheTurn_member {cluster : String} (h : registry.member cluster = .ok (handle, next)) :
    CacheTurn registry.cache next.cache ∧ registry.nextSerial ≤ next.nextSerial := by
  unfold ClientRegistry.member at h
  split at h
  · exact cacheTurn_obtain h
  · obtain ⟨valid, -, hobtain⟩ := bind_eq_ok_iff.1 h
    exact cacheTurn_obtain hobtain

/-- What is kept of an outcome is a turn of the cache, if success is one. -/
theorem cacheTurn_keeping {outcome : Except ClientError (ClientHandle × ClientRegistry)}
    (hok : ∀ handle next, outcome = .ok (handle, next) →
      CacheTurn registry.cache next.cache ∧ registry.nextSerial ≤ next.nextSerial) :
    CacheTurn registry.cache (registry.keeping outcome).cache ∧
      registry.nextSerial ≤ (registry.keeping outcome).nextSerial := by
  cases outcome with
  | error error => exact ⟨.same, Nat.le_refl _⟩
  | ok asked => exact hok asked.1 asked.2 rfl

/-- Every operation on the cache adds one entry at most or drops some. -/
theorem cacheTurn_act (registry : ClientRegistry) (action : RegistryAction) :
    CacheTurn registry.cache (registry.act action).cache ∧
      registry.nextSerial ≤ (registry.act action).nextSerial := by
  cases action with
  | controlPlane => exact cacheTurn_keeping fun _ _ => cacheTurn_obtain
  | apiServer => exact cacheTurn_keeping fun _ _ => cacheTurn_obtain
  | member cluster => exact cacheTurn_keeping fun _ _ => cacheTurn_member
  | clientFor identity => exact ⟨.same, Nat.le_refl _⟩
  | secretStore inNamespace => exact cacheTurn_keeping fun _ _ => cacheTurn_obtain
  | invalidate target => exact ⟨.thinned _, Nat.le_refl _⟩
  | invalidateMember name => exact ⟨.thinned _, Nat.le_refl _⟩
  | invalidateAll =>
    -- all are dropped, which is a way of dropping some
    have hnone : CacheTurn registry.cache (registry.cache.filter fun _ => false) := .thinned _
    rw [List.filter_false] at hnone
    exact ⟨hnone, Nat.le_refl _⟩
  | retain registered => exact ⟨.thinned _, Nat.le_refl _⟩

end ClientRegistry

end FleetDashboard
