import FleetDashboard.Proofs.Clients.Race

/-!
# Dropping a client for a new one

A client that has gone bad is dropped, so that whoever asks next is handed a new one. For a member
this works at every moment of every race: the drop tells that there was a client, leaves all others
where they are, and the next one who asks is handed a client that was built just now. It does not
work for the name of the management cluster. Asking by that name yields the client of the API server
next to the dashboard, but dropping by it looks for a member of that name, and there is none.

A new client can be built whenever the old one could, because a connection that is set stays set. It
is another client than all before, because numbers are never used twice.

* `ConnectionStore.Sets`: one connection more is set; `ConnectionStore.Within`: all that were set
  stay.
* `ClientRegistry.Makes`: what a client has to be like to be built now;
  `ClientRegistry.obtain_eq_ok_iff`: what asking for a target comes to.
* `ClientRegistry.GrowsBy`: one client at most was built in between; `Race.growsBy_step`: so it is
  with every event.
* `Race.Genuine`: the clients that are around could all be built now, and their numbers tell them
  apart; `Race.Genuine.run`: so it stays.
* `ClientRegistry.Rebuilds`: dropping works for a name; `Race.rebuilds_iff_of_run`: for which ones.
-/

namespace FleetDashboard

/-! ## Connections stay -/

namespace ConnectionStore

variable {store later : ConnectionStore}

/-- The connections that are set in a store are set in a later one too. -/
structure Within (store later : ConnectionStore) : Prop where
  /-- To the API server. -/
  apiServer : ∀ connection, store.apiServer = .ok connection → later.apiServer = .ok connection
  /-- To the control plane. -/
  controlPlane : ∀ connection, store.controlPlane = .ok connection →
    later.controlPlane = .ok connection
  /-- The template. -/
  memberTemplate : ∀ connection, store.memberTemplate = .ok connection →
    later.memberTemplate = .ok connection

theorem within_self (store : ConnectionStore) : store.Within store :=
  ⟨fun _ h => h, fun _ h => h, fun _ h => h⟩

/-- One connection more is set. -/
inductive Sets (store : ConnectionStore) : ConnectionStore → Prop
  /-- To the API server. -/
  | apiServer {connection : Connection} {later : ConnectionStore}
      (hset : store.setApiServer connection = .ok later) : Sets store later
  /-- To the control plane. -/
  | controlPlane {connection : Connection} {later : ConnectionStore}
      (hset : store.fillControlPlane connection = .ok later) : Sets store later
  /-- The template. -/
  | memberTemplate {connection : Connection} {later : ConnectionStore}
      (hset : store.setMemberTemplate connection = .ok later) : Sets store later

/-- Setting a connection replaces none. -/
theorem Sets.within (h : store.Sets later) : store.Within later := by
  -- the one that is set now was not set, so nothing could be read there before
  cases h with
  | apiServer hset =>
    unfold setApiServer at hset
    split at hset
    · cases hset
    next hunset =>
      cases hset
      refine ⟨fun connection hread => ?_, fun _ h => h, fun _ h => h⟩
      rw [ConnectionStore.apiServer, hunset] at hread
      cases hread
  | controlPlane hset =>
    unfold fillControlPlane at hset
    split at hset
    · cases hset
    next hunset =>
      cases hset
      refine ⟨fun _ h => h, fun connection hread => ?_, fun _ h => h⟩
      rw [ConnectionStore.controlPlane, hunset] at hread
      cases hread
  | memberTemplate hset =>
    unfold setMemberTemplate at hset
    split at hset
    · cases hset
    next hunset =>
      cases hset
      refine ⟨fun _ h => h, fun _ h => h, fun connection hread => ?_⟩
      rw [ConnectionStore.memberTemplate, hunset] at hread
      cases hread

end ConnectionStore

/-- The target that a proper name stands for is a proper one. -/
theorem ClientTarget.isProper_ofCluster {cluster : String}
    (h : cluster ≠ managementCluster → ClusterName.validate cluster = .ok ()) :
    (ClientTarget.ofCluster cluster).IsProper := by
  unfold ofCluster
  split
  · exact isProper_of_memberName?_eq_none rfl
  next hname =>
    rintro name hmember
    cases hmember
    exact ⟨h hname, hname⟩

/-! ## What is built -/

/-- The client that is built in a client's place later on, under a number of its own. -/
def ClientHandle.renewed (handle : ClientHandle) (serial : Nat) : ClientHandle :=
  { handle with serial }

namespace ClientRegistry

variable {registry next : ClientRegistry} {target : ClientTarget} {handle own : ClientHandle}
  {name : String}

/-- A client is as one would be that is built for its target now, but for its number. -/
def Makes (registry : ClientRegistry) (handle : ClientHandle) : Prop :=
  ∃ connection, registry.connectionTo handle.target = .ok connection ∧
    connection.host = handle.host ∧ connection.client = .ok handle.client

theorem construct_eq_ok_iff :
    registry.construct target = .ok (handle, next) ↔
      handle.target = target ∧ registry.Makes handle ∧ handle.serial = registry.nextSerial ∧
        next = { registry with nextSerial := registry.nextSerial + 1 } := by
  constructor
  · intro h
    obtain ⟨connection, hconnection, hrest⟩ := bind_eq_ok_iff.1 h
    obtain ⟨client, hclient, hbuilt⟩ := bind_eq_ok_iff.1 hrest
    cases hbuilt
    exact ⟨rfl, ⟨connection, hconnection, rfl, hclient⟩, rfl, rfl⟩
  · rintro ⟨rfl, ⟨connection, hconnection, hhost, hclient⟩, hserial, rfl⟩
    rw [construct, hconnection]
    refine bind_eq_ok_iff.2 ⟨connection, rfl, bind_eq_ok_iff.2 ⟨handle.client, hclient, ?_⟩⟩
    rw [pure_eq_ok_iff, hhost, ← hserial]

/-- What could be built can still be built when connections have been set since. -/
theorem Makes.of_within (h : registry.Makes handle)
    (hwithin : registry.connections.Within next.connections) : next.Makes handle := by
  obtain ⟨connection, hconnection, hbuilt⟩ := h
  refine ⟨connection, ?_, hbuilt⟩
  -- the connection is one that is set, or is derived from the template
  cases htarget : handle.target with
  | controlPlane =>
    rw [htarget] at hconnection
    exact hwithin.controlPlane connection hconnection
  | apiServer =>
    rw [htarget] at hconnection
    exact hwithin.apiServer connection hconnection
  | member name =>
    rw [htarget] at hconnection
    obtain ⟨template, htemplate, hproxy⟩ := bind_eq_ok_iff.1 hconnection
    exact bind_eq_ok_iff.2 ⟨template, hwithin.memberTemplate template htemplate, hproxy⟩

/-- A registry in which a client is kept that was just built. -/
def withBuilt (registry : ClientRegistry) (handle : ClientHandle) : ClientRegistry :=
  { registry with
    cache := registry.cache ++ [(handle.target, handle)]
    nextSerial := registry.nextSerial + 1 }

/-- Nobody comes in between when a target is asked for: the client that is handed out is the one
that is kept, or has just been built because there was none. -/
theorem obtain_eq_ok_iff :
    registry.obtain target = .ok (handle, next) ↔
      registry.cached? target = some handle ∧ next = registry ∨
        registry.cached? target = none ∧ handle.target = target ∧ registry.Makes handle ∧
          handle.serial = registry.nextSerial ∧ next = registry.withBuilt handle := by
  cases hcached : registry.cached? target with
  | some kept => simp [obtain, hcached, eq_comm]
  | none =>
    -- the offer finds what the look has found, for building keeps nothing
    have hoffer : ∀ own : ClientHandle, own.target = target →
        offer { registry with nextSerial := registry.nextSerial + 1 } own =
          (own, registry.withBuilt own) := by
      rintro own rfl
      have hfree : ({ registry with nextSerial := registry.nextSerial + 1 } :
          ClientRegistry).cached? own.target = none := hcached
      rw [offer, hfree]
      rfl
    rw [obtain, hcached]
    constructor
    · intro h
      obtain ⟨⟨own, built⟩, hbuilt, hrest⟩ := bind_eq_ok_iff.1 h
      obtain ⟨htarget, hmakes, hserial, rfl⟩ := construct_eq_ok_iff.1 hbuilt
      rw [pure_eq_ok_iff, hoffer own htarget, Prod.mk.injEq] at hrest
      obtain ⟨rfl, rfl⟩ := hrest
      exact Or.inr ⟨rfl, htarget, hmakes, hserial, rfl⟩
    · rintro (⟨habsent, -⟩ | ⟨-, htarget, hmakes, hserial, rfl⟩)
      · cases habsent
      · have hbuilt := construct_eq_ok_iff.2 ⟨htarget, hmakes, hserial, rfl⟩
        refine bind_eq_ok_iff.2 ⟨_, hbuilt, ?_⟩
        rw [pure_eq_ok_iff, hoffer handle htarget]

/-! ## Which clients are around -/

/-- A client is kept. -/
def Keeps (registry : ClientRegistry) (handle : ClientHandle) : Prop :=
  ∃ entry ∈ registry.cache, entry.2 = handle

/-- A client was built on the way from one registry to the next: for a proper target, and under a
number that is used up then. -/
structure Builds (registry next : ClientRegistry) (handle : ClientHandle) : Prop where
  /-- It is as it would be if it were built now. -/
  makes : registry.Makes handle
  /-- Its target is one that is asked for. -/
  proper : handle.target.IsProper
  /-- It has the next number. -/
  serial : handle.serial = registry.nextSerial
  /-- That is used up. -/
  used : next.nextSerial = registry.nextSerial + 1

/-- On the way from one registry to the next, connections stay, and no clients come up but one at
most, which was built. -/
structure GrowsBy (registry next : ClientRegistry) (before after : ClientHandle → Prop)
    (fresh : Option ClientHandle) : Prop where
  /-- Connections stay. -/
  within : registry.connections.Within next.connections
  /-- Clients that are around were so before, or one of them came up. -/
  among : ∀ handle, after handle → before handle ∨ fresh = some handle
  /-- The one that came up was built. -/
  built : ∀ handle, fresh = some handle → registry.Builds next handle

theorem growsBy_none {before after : ClientHandle → Prop}
    (hwithin : registry.connections.Within next.connections)
    (h : ∀ handle, after handle → before handle) : registry.GrowsBy next before after none := by
  refine ⟨hwithin, fun handle hafter => Or.inl (h handle hafter), ?_⟩
  intro handle hnone
  cases hnone

/-- Dropping clients brings none up. -/
theorem growsBy_filter (registry : ClientRegistry) (stays : ClientTarget × ClientHandle → Bool) :
    registry.GrowsBy { registry with cache := registry.cache.filter stays } registry.Keeps
      (Keeps { registry with cache := registry.cache.filter stays }) none := by
  refine growsBy_none registry.connections.within_self ?_
  rintro handle ⟨entry, hentry, rfl⟩
  exact ⟨entry, List.mem_of_mem_filter hentry, rfl⟩

theorem Keeps.of_append (h : next.Keeps handle)
    (hcache : next.cache = registry.cache ++ [(own.target, own)]) :
    registry.Keeps handle ∨ own = handle := by
  obtain ⟨entry, hentry, rfl⟩ := h
  rw [hcache] at hentry
  rcases List.mem_append.1 hentry with hold | hlast
  · exact Or.inl ⟨entry, hold, rfl⟩
  · rw [List.mem_singleton.1 hlast]
    exact Or.inr rfl

/-- After an offer nothing is kept but what was, and what was offered. -/
theorem keeps_of_offer (h : (registry.offer own).2.Keeps handle) :
    registry.Keeps handle ∨ own = handle := by
  unfold offer at h
  split at h
  · exact Or.inl h
  · exact h.of_append rfl

theorem connections_offer (registry : ClientRegistry) (own : ClientHandle) :
    (registry.offer own).2.connections = registry.connections := by
  unfold offer
  split <;> rfl

theorem growsBy_of_obtain (hproper : target.IsProper)
    (h : registry.obtain target = .ok (handle, next)) :
    ∃ fresh, registry.GrowsBy next registry.Keeps next.Keeps fresh := by
  rcases obtain_eq_ok_iff.1 h with ⟨-, rfl⟩ | ⟨-, rfl, hmakes, hserial, rfl⟩
  · exact ⟨none, growsBy_none next.connections.within_self fun _ hkeeps => hkeeps⟩
  · refine ⟨some handle, registry.connections.within_self, fun other hother => ?_, ?_⟩
    · exact (hother.of_append rfl).imp_right (congrArg some)
    · rintro fresh hfresh
      cases hfresh
      exact ⟨hmakes, hproper, hserial, rfl⟩

/-- Asking by a name is asking for what the name stands for, in every registry, and only proper
names get that far. -/
theorem member_eq_obtain (h : registry.member name = .ok (handle, next)) :
    (ClientTarget.ofCluster name).IsProper ∧
      ∀ other : ClientRegistry, other.member name = other.obtain (.ofCluster name) := by
  by_cases hname : name = managementCluster
  · refine ⟨ClientTarget.isProper_ofCluster fun hne => absurd hname hne, fun other => ?_⟩
    rw [ClientRegistry.member, ClientTarget.ofCluster, if_pos hname, if_pos hname, apiServer]
  · rw [ClientRegistry.member, if_neg hname] at h
    obtain ⟨valid, hvalid, -⟩ := bind_eq_ok_iff.1 h
    refine ⟨ClientTarget.isProper_ofCluster fun _ => hvalid, fun other => ?_⟩
    rw [ClientRegistry.member, ClientTarget.ofCluster, if_neg hname, if_neg hname, hvalid]
    rfl

/-- What is kept of an outcome has grown by one client at most, if success has. -/
theorem growsBy_keeping {outcome : Except ClientError (ClientHandle × ClientRegistry)}
    (hok : ∀ handle next, outcome = .ok (handle, next) →
      ∃ fresh, registry.GrowsBy next registry.Keeps next.Keeps fresh) :
    ∃ fresh, registry.GrowsBy (registry.keeping outcome) registry.Keeps
      (registry.keeping outcome).Keeps fresh := by
  cases outcome with
  | error error =>
    exact ⟨none, growsBy_none registry.connections.within_self fun _ hkeeps => hkeeps⟩
  | ok asked => exact hok asked.1 asked.2 rfl

/-- Every operation builds one client at most. -/
theorem growsBy_act (registry : ClientRegistry) (action : RegistryAction) :
    ∃ fresh, registry.GrowsBy (registry.act action) registry.Keeps (registry.act action).Keeps
      fresh := by
  have hobtain : ∀ target : ClientTarget, target.memberName? = none →
      ∃ fresh, registry.GrowsBy (registry.keeping (registry.obtain target)) registry.Keeps
        (registry.keeping (registry.obtain target)).Keeps fresh := fun target htarget =>
    growsBy_keeping fun _ _ =>
      growsBy_of_obtain (ClientTarget.isProper_of_memberName?_eq_none htarget)
  cases action with
  | controlPlane => exact hobtain .controlPlane rfl
  | apiServer => exact hobtain .apiServer rfl
  | member cluster =>
    refine growsBy_keeping fun handle next hmember => ?_
    obtain ⟨hproper, hasked⟩ := member_eq_obtain hmember
    rw [hasked] at hmember
    exact growsBy_of_obtain hproper hmember
  | clientFor identity =>
    exact ⟨none, growsBy_none registry.connections.within_self fun _ hkeeps => hkeeps⟩
  | secretStore inNamespace => exact hobtain .apiServer rfl
  | invalidate target => exact ⟨none, registry.growsBy_filter _⟩
  | invalidateMember name => exact ⟨none, registry.growsBy_filter _⟩
  | invalidateAll =>
    have hgrows := registry.growsBy_filter fun _ => false
    rw [List.filter_false] at hgrows
    exact ⟨none, hgrows⟩
  | retain registered => exact ⟨none, registry.growsBy_filter _⟩

/-! ## Dropping -/

/-- A client that is handed out for a target is kept for it then. -/
theorem cached?_of_obtain (h : registry.obtain target = .ok (handle, next)) :
    next.cached? target = some handle := by
  rcases obtain_eq_ok_iff.1 h with ⟨hcached, rfl⟩ | ⟨hnone, rfl, -, -, rfl⟩
  · exact hcached
  · -- nothing before it is found for the target, so the new entry is
    rw [cached?, Option.map_eq_none_iff] at hnone
    simp [cached?, withBuilt, List.find?_append, hnone]

/-- No client is kept for a target that was dropped. -/
theorem cached?_invalidate (registry : ClientRegistry) (target : ClientTarget) :
    (registry.invalidate target).2.cached? target = none := by
  rw [cached?, invalidate, Option.map_eq_none_iff, List.find?_eq_none]
  intro entry hentry
  have hstays := (List.mem_filter.1 hentry).2
  rwa [bne_iff_ne, ← beq_eq_false_iff_ne, ← Bool.not_eq_true] at hstays

/-- Dropping the client that is handed out by a name leads to a new one. -/
structure Rebuilds (registry : ClientRegistry) (name : String) (handle : ClientHandle) : Prop where
  /-- It is told that there was a client. -/
  dropped : (registry.invalidateMember name).1 = true
  /-- That client is kept no longer, and all else stays. -/
  others : (registry.invalidateMember name).2 =
    { registry with cache := registry.cache.filter fun entry => entry.2.serial != handle.serial }
  /-- Whoever asks by the name next is handed a client that is built then in its place, and that one
  is kept. -/
  rebuilt : (registry.invalidateMember name).2.member name =
    .ok (handle.renewed registry.nextSerial,
      (registry.invalidateMember name).2.withBuilt (handle.renewed registry.nextSerial))
  /-- It is another client than the one that was dropped. -/
  newer : handle.serial < registry.nextSerial

end ClientRegistry

/-! ## Races in which connections stay -/

/-- A caller's step builds one client at most, for what the caller asks for. -/
theorem CallerProgress.growsBy_advance (registry : ClientRegistry) {target : ClientTarget}
    (hproper : target.IsProper) (step : CallerStep) (progress : CallerProgress) :
    let result := progress.advance registry target step
    ∃ fresh, registry.GrowsBy result.2
      (fun handle => registry.Keeps handle ∨ progress.own? = some handle)
      (fun handle => result.2.Keeps handle ∨ result.1.own? = some handle) fresh := by
  have hadvance := advance_advance registry target step progress
  generalize progress.advance registry target step = result at hadvance ⊢
  have hwithin := registry.connections.within_self
  cases hadvance with
  | idle => exact ⟨none, ClientRegistry.growsBy_none hwithin fun _ huses => huses⟩
  | hit kept hcached => exact ⟨none, ClientRegistry.growsBy_none hwithin fun _ huses => huses⟩
  | miss => exact ⟨none, ClientRegistry.growsBy_none hwithin fun _ huses => huses⟩
  | failed error => exact ⟨none, ClientRegistry.growsBy_none hwithin fun _ huses => huses⟩
  | built own next hbuilt =>
    -- nothing more is kept yet, but the caller has the new client
    obtain ⟨rfl, hmakes, hserial, rfl⟩ := ClientRegistry.construct_eq_ok_iff.1 hbuilt
    refine ⟨some own, hwithin, ?_, ?_⟩
    · rintro handle (hkeeps | hown)
      · exact Or.inl (Or.inl hkeeps)
      · exact Or.inr hown
    · rintro handle hfresh
      cases hfresh
      exact ⟨hmakes, hproper, hserial, rfl⟩
  | offered own =>
    -- whatever is kept then was kept before, or is the one that the caller had built
    refine ⟨none, ClientRegistry.growsBy_none ?_ ?_⟩
    · rw [ClientRegistry.connections_offer]
      exact hwithin
    · rintro handle (hkeeps | hown)
      · rcases ClientRegistry.keeps_of_offer hkeeps with hold | rfl
        · exact Or.inl hold
        · exact Or.inr rfl
      · exact Or.inr hown

namespace Race

variable {ι : Type} [DecidableEq ι] {race : Race ι} {event : RaceEvent ι}
  {events : List (RaceEvent ι)} {name : String} {handle : ClientHandle}

/-- Nothing is set by an event but a connection that was not. -/
def SetsOnly (race : Race ι) : RaceEvent ι → Prop
  | .connect connections => race.registry.connections.Sets connections
  | _ => True

/-- Nor is it by any event of a run. -/
def OnlySets : Race ι → List (RaceEvent ι) → Prop
  | _, [] => True
  | race, event :: rest => race.SetsOnly event ∧ OnlySets (race.step event) rest

/-- A client is around: it is kept, or a caller has built it. -/
def Uses (race : Race ι) (handle : ClientHandle) : Prop :=
  race.registry.Keeps handle ∨ ∃ caller, (race.progress caller).own? = some handle

/-- Every event builds one client at most. -/
theorem growsBy_step (hwanted : ∀ caller, (race.wanted caller).IsProper)
    (hsets : race.SetsOnly event) :
    ∃ fresh, race.registry.GrowsBy (race.step event).registry race.Uses (race.step event).Uses
      fresh := by
  cases event with
  | turn mover step =>
    obtain ⟨fresh, hgrows⟩ :=
      CallerProgress.growsBy_advance race.registry (hwanted mover) step (race.progress mover)
    -- what the others have built they had built before
    refine ⟨fresh, hgrows.within, ?_, hgrows.built⟩
    have hmover : ∀ handle, race.registry.Keeps handle ∨ (race.progress mover).own? = some handle →
        race.Uses handle := fun handle => Or.imp_right fun hown => ⟨mover, hown⟩
    rintro handle (hkeeps | ⟨caller, hown⟩)
    · exact (hgrows.among handle (Or.inl hkeeps)).imp_left (hmover handle)
    · by_cases hcaller : caller = mover
      · subst hcaller
        simp only [Race.step, turn, Function.update_self] at hown
        exact (hgrows.among handle (Or.inr hown)).imp_left (hmover handle)
      · simp only [Race.step, turn, Function.update_of_ne hcaller] at hown
        exact Or.inl (Or.inr ⟨caller, hown⟩)
  | act action =>
    obtain ⟨fresh, hgrows⟩ := race.registry.growsBy_act action
    refine ⟨fresh, hgrows.within, ?_, hgrows.built⟩
    rintro handle (hkeeps | hown)
    · exact (hgrows.among handle hkeeps).imp_left Or.inl
    · exact Or.inl (Or.inr hown)
  | connect connections =>
    exact ⟨none, ClientRegistry.growsBy_none hsets.within fun _ huses => huses⟩

/-- The clients that are around are genuine. -/
structure Genuine (race : Race ι) : Prop where
  /-- They could be built now. -/
  makes : ∀ handle, race.Uses handle → race.registry.Makes handle
  /-- They were built for targets that are asked for. -/
  proper : ∀ handle, race.Uses handle → handle.target.IsProper
  /-- The number of the next client is a new one. -/
  below : ∀ handle, race.Uses handle → handle.serial < race.registry.nextSerial
  /-- Clients are told apart by their numbers. -/
  apart : ∀ handle other, race.Uses handle → race.Uses other → handle.serial = other.serial →
    handle = other

omit [DecidableEq ι] in
theorem not_uses_ofConnections (connections : ConnectionStore) (wanted : ι → ClientTarget)
    (handle : ClientHandle) : ¬ (ofConnections connections wanted).Uses handle := by
  rintro (⟨entry, hentry, -⟩ | ⟨caller, hown⟩)
  · cases hentry
  · cases hown

omit [DecidableEq ι] in
theorem genuine_ofConnections (connections : ConnectionStore) (wanted : ι → ClientTarget) :
    (ofConnections connections wanted).Genuine where
  makes handle huses := absurd huses (not_uses_ofConnections connections wanted handle)
  proper handle huses := absurd huses (not_uses_ofConnections connections wanted handle)
  below handle huses := absurd huses (not_uses_ofConnections connections wanted handle)
  apart handle _ huses := absurd huses (not_uses_ofConnections connections wanted handle)

/-- Every event keeps the clients that are around genuine. -/
theorem Genuine.step (h : race.Genuine) (hwanted : ∀ caller, (race.wanted caller).IsProper)
    (hsets : race.SetsOnly event) : (race.step event).Genuine := by
  obtain ⟨fresh, hgrows⟩ := growsBy_step hwanted hsets
  have hle := (race.cacheTurn_step event).2
  refine ⟨?_, ?_, ?_, ?_⟩
  · intro handle huses
    refine ClientRegistry.Makes.of_within ?_ hgrows.within
    rcases hgrows.among handle huses with hold | hfresh
    · exact h.makes handle hold
    · exact (hgrows.built handle hfresh).makes
  · intro handle huses
    rcases hgrows.among handle huses with hold | hfresh
    · exact h.proper handle hold
    · exact (hgrows.built handle hfresh).proper
  · intro handle huses
    rcases hgrows.among handle huses with hold | hfresh
    · exact Nat.lt_of_lt_of_le (h.below handle hold) hle
    · have hbuilt := hgrows.built handle hfresh
      rw [hbuilt.serial, hbuilt.used]
      exact Nat.lt_succ_self _
  · intro handle other huses hother heq
    -- one that was just built has a number above all of those before
    rcases hgrows.among handle huses with hold | hfresh
    · rcases hgrows.among other hother with hold' | hfresh'
      · exact h.apart handle other hold hold' heq
      · have hbelow := h.below handle hold
        have hserial := (hgrows.built other hfresh').serial
        omega
    · rcases hgrows.among other hother with hold' | hfresh'
      · have hbelow := h.below other hold'
        have hserial := (hgrows.built handle hfresh).serial
        omega
      · exact Option.some.inj (hfresh.symm.trans hfresh')

theorem Genuine.run (h : race.Genuine) (hwanted : ∀ caller, (race.wanted caller).IsProper)
    (hsets : OnlySets race events) : (race.run events).Genuine := by
  -- over the events that are left, which begin with one that keeps the invariant
  induction events generalizing race with
  | nil => exact h
  | cons event rest ih =>
    refine ih (h.step hwanted hsets.1) ?_ hsets.2
    rwa [wanted_step]

@[simp]
theorem wanted_run (race : Race ι) (events : List (RaceEvent ι)) :
    (race.run events).wanted = race.wanted := by
  induction events generalizing race with
  | nil => rfl
  | cons event rest ih => rw [run_cons, ih, wanted_step]

/-! ## Dropping in a race -/

omit [DecidableEq ι] in
/-- Of all clients that are kept, the one of a target is the one with its number. -/
theorem Genuine.fst_eq_iff (h : race.Genuine) (hsound : race.Sound) {target : ClientTarget}
    (hmem : (target, handle) ∈ race.registry.cache) {entry : ClientTarget × ClientHandle}
    (hentry : entry ∈ race.registry.cache) :
    entry.1 = target ↔ entry.2.serial = handle.serial := by
  constructor
  · rintro rfl
    have heq : entry = (entry.1, handle) := List.inj_on_of_nodup_map hsound.once hentry hmem rfl
    rw [heq]
  · intro hserial
    have heq : entry.2 = handle :=
      h.apart _ _ (Or.inl ⟨entry, hentry, rfl⟩) (Or.inl ⟨_, hmem, rfl⟩) hserial
    have htarget : handle.target = target := hsound.keyed _ hmem
    rw [← hsound.keyed entry hentry, heq, htarget]

omit [DecidableEq ι] in
/-- Dropping a member leads to a new client of it. -/
theorem Genuine.rebuilds (h : race.Genuine) (hsound : race.Sound)
    (hasked : ∀ other : ClientRegistry, other.member name = other.obtain (.member name))
    (hcached : race.registry.cached? (.member name) = some handle) :
    race.registry.Rebuilds name handle := by
  have hmem := ClientRegistry.mem_cache_of_cached? hcached
  have huses : race.Uses handle := Or.inl ⟨_, hmem, rfl⟩
  have htarget : handle.target = .member name := hsound.keyed _ hmem
  refine ⟨?_, ?_, ?_, h.below handle huses⟩
  · show (race.registry.cached? (.member name)).isSome = true
    rw [hcached, Option.isSome_some]
  · unfold ClientRegistry.invalidateMember ClientRegistry.invalidate
    have hfilter : race.registry.cache.filter (fun entry => entry.1 != .member name) =
        race.registry.cache.filter fun entry => entry.2.serial != handle.serial := by
      refine List.filter_congr fun entry hentry => ?_
      rw [Bool.eq_iff_iff, bne_iff_ne, bne_iff_ne]
      exact not_congr (h.fst_eq_iff hsound hmem hentry)
    rw [hfilter]
  · -- the connection is still set, and nothing is kept for the member
    have hnone := race.registry.cached?_invalidate (.member name)
    have hmakes : (race.registry.invalidateMember name).2.Makes
        (handle.renewed race.registry.nextSerial) :=
      (h.makes handle huses).of_within race.registry.connections.within_self
    rw [hasked, ClientRegistry.obtain_eq_ok_iff]
    exact Or.inr ⟨hnone, htarget, hmakes, rfl, rfl⟩

omit [DecidableEq ι] in
/-- Dropping by the name of the management cluster drops nothing. -/
theorem Genuine.invalidateMember_managementCluster (h : race.Genuine) (hsound : race.Sound) :
    race.registry.invalidateMember managementCluster = (false, race.registry) := by
  -- no client is kept for a member of that name
  have hkept : ∀ entry ∈ race.registry.cache, entry.1 ≠ .member managementCluster := by
    intro entry hentry htarget
    have hproper := h.proper entry.2 (Or.inl ⟨entry, hentry, rfl⟩)
    rw [hsound.keyed entry hentry] at hproper
    exact (hproper managementCluster htarget).2 rfl
  unfold ClientRegistry.invalidateMember ClientRegistry.invalidate ClientRegistry.cached?
  have hfind : race.registry.cache.find? (fun entry => entry.1 == .member managementCluster) =
      none :=
    List.find?_eq_none.2 fun entry hentry => by simpa using hkept entry hentry
  have hfilter : race.registry.cache.filter (fun entry => entry.1 != .member managementCluster) =
      race.registry.cache :=
    List.filter_eq_self.2 fun entry hentry => by simpa using hkept entry hentry
  rw [hfind, hfilter]
  rfl

omit [DecidableEq ι] in
/-- Of a client that is kept for what a name stands for, dropping by the name leads to a new one,
unless the name is that of the management cluster. -/
theorem Genuine.rebuilds_iff (h : race.Genuine) (hsound : race.Sound)
    (hasked : ∀ other : ClientRegistry, other.member name = other.obtain (.ofCluster name))
    (hcached : race.registry.cached? (.ofCluster name) = some handle) :
    (race.registry.Rebuilds name handle ↔ name ≠ managementCluster) ∧
      (name = managementCluster →
        race.registry.invalidateMember name = (false, race.registry) ∧
          race.registry.member name = .ok (handle, race.registry)) := by
  by_cases hname : name = managementCluster
  · subst hname
    have hkept := h.invalidateMember_managementCluster hsound
    refine ⟨⟨fun hrebuilds => ?_, fun hne => absurd rfl hne⟩, fun _ => ⟨hkept, ?_⟩⟩
    · have hdropped := hrebuilds.dropped
      rw [hkept] at hdropped
      cases hdropped
    · rw [hasked]
      exact ClientRegistry.obtain_of_cached? hcached
  · have htarget : ClientTarget.ofCluster name = .member name := if_neg hname
    rw [htarget] at hcached
    simp only [htarget] at hasked
    exact ⟨⟨fun _ => hname, fun _ => h.rebuilds hsound hasked hcached⟩, fun heq => absurd heq hname⟩

/-- At every moment of a race in which connections are set but not replaced, dropping the client
that was handed out by a name leads to a new one, unless the name is that of the management cluster:
then nothing is dropped, and the same client is handed out again. -/
theorem rebuilds_iff_of_run (connections : ConnectionStore) (wanted : ι → ClientTarget)
    (events : List (RaceEvent ι)) (name : String) (handle : ClientHandle) (next : ClientRegistry)
    (hwanted : ∀ caller, (wanted caller).IsProper)
    (hsets : OnlySets (ofConnections connections wanted) events)
    (hmember : ((ofConnections connections wanted).run events).registry.member name =
      .ok (handle, next)) :
    (next.Rebuilds name handle ↔ name ≠ managementCluster) ∧
      (name = managementCluster → next.invalidateMember name = (false, next) ∧
        next.member name = .ok (handle, next)) := by
  have hsound := (sound_ofConnections connections wanted).run events
  have hgenuine := (genuine_ofConnections connections wanted).run hwanted hsets
  have hproper : ∀ caller,
      (((ofConnections connections wanted).run events).wanted caller).IsProper := by
    rw [wanted_run]
    exact hwanted
  generalize (ofConnections connections wanted).run events = race at hsound hgenuine hproper hmember
  -- asking by the name is one event more, so the invariants hold of what it leaves behind
  have hsound' := hsound.step (.act (.member name))
  have hgenuine' : (race.step (.act (.member name))).Genuine := hgenuine.step hproper trivial
  have hnext : (race.step (.act (.member name))).registry = next := by
    show race.registry.keeping (race.registry.member name) = next
    rw [hmember]
    rfl
  obtain ⟨-, hasked⟩ := ClientRegistry.member_eq_obtain hmember
  rw [hasked] at hmember
  have hcached := ClientRegistry.cached?_of_obtain hmember
  rw [← hnext] at hcached ⊢
  exact hgenuine'.rebuilds_iff hsound' hasked hcached

/-- While one caller has built a client of `member1` and not offered it, another one asks for it by
name; the address of the API server is set in between. The client of the other one is kept, and when
it is dropped, a third one is built. -/
theorem rebuilds_iff_of_run_pending :
    let connection := Connection.ofEndpoint (.ofAddress
      { scheme := some "https", authority := "karmada:5443", writtenPath := "", query := none })
    let connections := { ConnectionStore.empty with memberTemplate? := some connection }
    let wanted : Fin 1 → ClientTarget := fun _ => .member "member1"
    let events : List (RaceEvent (Fin 1)) :=
      [.turn 0 .look, .turn 0 .build,
        .connect { connections with apiServer? := some connection }, .act .apiServer]
    ∃ handle next, ((ofConnections connections wanted).run events).registry.member "member1" =
        .ok (handle, next) ∧
      next.Rebuilds "member1" handle ∧ handle.serial = 2 ∧ next.nextSerial = 3 := by
  intro connection connections wanted events
  have hwanted : ∀ caller, (wanted caller).IsProper := by
    rintro _ _ ⟨rfl⟩
    exact ⟨by rfl, by decide⟩
  have hset : ((ofConnections connections wanted).run
        [.turn 0 .look, .turn 0 .build]).registry.connections.setApiServer connection =
      .ok { connections with apiServer? := some connection } := by
    decide +kernel
  have hsets : OnlySets (ofConnections connections wanted) events :=
    ⟨trivial, trivial, .apiServer hset, trivial, trivial⟩
  have hserials : (((ofConnections connections wanted).run events).registry.member "member1").map
      (fun asked => (asked.1.serial, asked.2.nextSerial)) = .ok (2, 3) := by
    decide +kernel
  obtain ⟨⟨handle, next⟩, hmember, heq⟩ := map_eq_ok_iff.1 hserials
  rw [Prod.mk.injEq] at heq
  have hrebuilds := (rebuilds_iff_of_run connections wanted events "member1" handle next hwanted
    hsets hmember).1.2 (by decide)
  exact ⟨handle, next, hmember, hrebuilds, heq⟩

/-- The client of the API server, asked for by the name of the management cluster in a registry
without clients, is not dropped by that name. -/
theorem not_rebuilds_managementCluster :
    let connections := ConnectionStore.ofAddress
      { scheme := some "https", authority := "karmada:5443", writtenPath := "", query := none }
    ∃ handle next, (ClientRegistry.ofConnections connections).member managementCluster =
        .ok (handle, next) ∧
      (next.invalidateMember managementCluster).1 = false ∧
      ¬ next.Rebuilds managementCluster handle := by
  intro connections
  have hasked : ((ClientRegistry.ofConnections connections).member managementCluster).map
      (fun asked => (asked.2.invalidateMember managementCluster).1) = .ok false := by
    decide +kernel
  obtain ⟨⟨handle, next⟩, hmember, hnone⟩ := map_eq_ok_iff.1 hasked
  refine ⟨handle, next, hmember, hnone, fun hrebuilds => ?_⟩
  rw [hrebuilds.dropped] at hnone
  cases hnone

end Race

end FleetDashboard
