import Mathlib.Data.List.Nodup
import FleetDashboard.Connection.Bootstrap
import FleetDashboard.Proofs.Clients.ClusterName
import FleetDashboard.Proofs.Clients.Registry
import FleetDashboard.Proofs.Uri

/-!
# The client cache over whole runs

What is true of the client cache after any operations on it, in any order. A client that is kept was
built for its target and speaks to the address of that target, members are kept under proper names
only, and no two entries share a target or a client. The name of the management cluster stands for
the API server next to the dashboard, failing operations and clients of callers leave no trace, and
evicting drops the members that are not registered and nothing else.

A member's address is put together as a text and then read again. The text of what was read is the
one that was put together, because the template's address was itself read from a text, and the name
behind it holds nothing that would end a path.

* `ConnectionStore.hostOf`: the address at which a target is reached.
* `ConnectionStore.TemplateRead`: the template's address was read from a text; so it is in every
  store that is set up at start (`ConnectionStore.templateRead_of_bootstrap`).
* `ClientRegistry.Sound`: the invariant, and `ClientRegistry.Sound.act`, that each operation keeps
  it.
* `ClientRegistry.answer`, `ClientRegistry.Lawful`: what operations answer, and the rules for it.
* `ClientRegistry.sound_lawful_run`: both after every run.
-/

namespace FleetDashboard

/-! ## Targets -/

/-- A client may be kept for a target: members go by proper names, and the name of the management
cluster is none of theirs. -/
def ClientTarget.IsProper (target : ClientTarget) : Prop :=
  ∀ name, target = .member name → ClusterName.validate name = .ok () ∧ name ≠ managementCluster

theorem ClientTarget.isProper_of_memberName?_eq_none {target : ClientTarget}
    (h : target.memberName? = none) : target.IsProper := by
  rintro name rfl
  cases h

/-! ## Addresses of targets -/

namespace Connection

variable {connection derived : Connection} {client : ApiClient} {cluster : String}

/-- The address was read from a text. -/
def IsRead (connection : Connection) : Prop :=
  ∃ written, Uri.parse written = .ok connection.endpoint.address

/-- A client speaks to the address of its connection. -/
theorem address_of_client (h : connection.client = .ok client) :
    client.address = connection.endpoint.address := by
  obtain ⟨endpoint, heffective, hbuilt⟩ := bind_eq_ok_iff.1 h
  obtain ⟨acting, -, hclient⟩ := bind_eq_ok_iff.1 hbuilt
  unfold effective at heffective
  extract_lets own at heffective
  split at heffective
  · cases heffective
    cases hclient
    rfl
  · cases heffective

/-- The number sign, which would begin a fragment, stands in no path of a member. -/
theorem hash_not_mem_memberPath (h : ClusterName.isName cluster = true) :
    '#' ∉ (memberPath cluster).toList := by
  have hname : '#' ∉ cluster.toList := by
    intro hmem
    rcases ClusterName.of_mem_of_isName h hmem with hdot | hlabel
    · exact absurd hdot (by decide)
    · exact absurd hlabel (by decide)
  have hlead : '#' ∉ clusterProxyLead.toList := by decide
  simp [memberPath, hname, hlead]

/-- A member is reached at its proxy's address, as that was put together. -/
theorem host_memberProxy (hread : connection.IsRead) (hname : ClusterName.isName cluster = true)
    (h : connection.memberProxy cluster = .ok derived) :
    derived.host = memberProxyUrl connection.host cluster := by
  obtain ⟨written, hwritten⟩ := hread
  have hurl : memberProxyUrl connection.host cluster =
      Text.trimEnd '/' connection.endpoint.address.text ++ memberPath cluster :=
    memberProxyUrl_eq connection.host cluster
  unfold memberProxy at h
  rw [hurl] at h ⊢
  extract_lets url at h
  split at h
  next address hparse =>
    cases h
    -- the path begins with one slash only and cannot end in a fragment, so it is read as written
    have hpath : (memberPath cluster).toList =
        '/' :: 'a' :: (memberPath cluster).toList.drop 2 := by
      simp [memberPath, clusterProxyLead]
    exact Uri.text_of_parse_below hwritten hpath (by decide) (hash_not_mem_memberPath hname) hparse
  next => cases h

end Connection

namespace ConnectionStore

/-- The address at which a target is reached: a member is reached through the proxy at the
template's. -/
def hostOf (store : ConnectionStore) : ClientTarget → Option String
  | .controlPlane => store.controlPlane?.map Connection.host
  | .apiServer => store.apiServer?.map Connection.host
  | .member name =>
    store.memberTemplate?.map fun template => Connection.memberProxyUrl template.host name

/-- One address for every purpose. -/
def ofAddress (address : Uri) : ConnectionStore :=
  let connection := Connection.ofEndpoint (.ofAddress address)
  { apiServer? := some connection
    controlPlane? := some connection
    memberTemplate? := some connection }

/-- The template's address was read from a text, as every address is. -/
def TemplateRead (store : ConnectionStore) : Prop :=
  ∀ template, store.memberTemplate? = some template → template.IsRead

variable {store next : ConnectionStore} {connection : Connection}

/-- The address of a context in a kubeconfig was read from its text. -/
theorem read_of_load {config : Kubeconfig} {context : Option String} {endpoint : Endpoint}
    (h : config.load context = .ok endpoint) :
    ∃ written, Uri.parse written = .ok endpoint.address := by
  unfold Kubeconfig.load at h
  split at h
  next => cases h
  next =>
    split at h
    next => cases h
    next =>
      extract_lets clusterName at h
      split at h
      next => cases h
      next =>
        split at h
        next => cases h
        next => cases h
        next address hserver =>
          obtain ⟨written, -, hparse⟩ := Option.map_eq_some_iff.1 hserver
          cases h
          exact ⟨written, hparse⟩

/-- The address of a connection from a file was read from its text. -/
theorem isRead_of_fromKubeconfig {files : String → Option Json} {path : String}
    {context : Option String} (h : fromKubeconfig files path context = .ok connection) :
    connection.IsRead := by
  unfold fromKubeconfig at h
  split at h
  next => cases h
  next content hcontent =>
    split at h
    next endpoint hload =>
      cases h
      obtain ⟨written, hwritten⟩ := read_of_load hload
      exact ⟨written, hwritten⟩
    next => cases h

/-- A template that is set together with the control plane was read if the control plane was. -/
theorem templateRead_of_setControlPlane (hread : connection.IsRead)
    (h : store.setControlPlane connection = .ok next) : next.TemplateRead := by
  obtain ⟨middle, htemplate, hplane⟩ := bind_eq_ok_iff.1 h
  unfold setMemberTemplate at htemplate
  split at htemplate
  · cases htemplate
  · cases htemplate
    unfold fillControlPlane at hplane
    split at hplane
    · cases hplane
    · cases hplane
      intro template hset
      cases hset
      exact hread

/-- The template of a store that was set up at start was read from a text. -/
theorem templateRead_of_bootstrap {files : String → Option Json} {options : BootstrapOptions}
    (h : bootstrap files options = .ok store) : store.TemplateRead := by
  unfold bootstrap at h
  extract_lets fromPath at h
  cases hpath : options.kubeconfig with
  | none =>
    rw [hpath] at h
    cases h
  | some path =>
    rw [hpath] at h
    obtain ⟨_, -, h⟩ := bind_eq_ok_iff.1 h
    obtain ⟨apiServer, -, h⟩ := bind_eq_ok_iff.1 h
    obtain ⟨first, -, h⟩ := bind_eq_ok_iff.1 h
    extract_lets fromKarmadaPath at h
    cases hkarmada : options.karmadaKubeconfig with
    | none =>
      rw [hkarmada] at h
      cases h
    | some karmadaPath =>
      rw [hkarmada] at h
      obtain ⟨_, -, h⟩ := bind_eq_ok_iff.1 h
      obtain ⟨controlPlane, hcontrolPlane, h⟩ := bind_eq_ok_iff.1 h
      obtain ⟨written, hwritten⟩ := isRead_of_fromKubeconfig hcontrolPlane
      have hread : (options.apply controlPlane).IsRead := ⟨written, hwritten⟩
      exact templateRead_of_setControlPlane hread h

end ConnectionStore

namespace ClientRegistry

variable {connections : ConnectionStore} {registry next : ClientRegistry} {handle : ClientHandle}
  {target : ClientTarget} {cluster : String}

/-! ## The invariant -/

/-- A client that was built for a target. -/
structure BuiltFor (connections : ConnectionStore) (target : ClientTarget) (handle : ClientHandle) :
    Prop where
  /-- It is told to be the target's. -/
  bound : handle.target = target
  /-- Its address is that of the target. -/
  host : connections.hostOf target = some handle.host
  /-- That is the address it speaks to. -/
  address : handle.client.address.text = handle.host

/-- The invariant of the cache. -/
structure Sound (connections : ConnectionStore) (registry : ClientRegistry) : Prop where
  /-- The connections stay what they are. -/
  store : registry.connections = connections
  /-- Every client that is kept was built for its target. -/
  builtFor : ∀ entry ∈ registry.cache, BuiltFor connections entry.1 entry.2
  /-- Members are kept under proper names. -/
  proper : ∀ target ∈ registry.targets, target.IsProper
  /-- No target is kept twice. -/
  once : registry.targets.Nodup
  /-- The number of the next client is a new one. -/
  serials : ∀ entry ∈ registry.cache, entry.2.serial < registry.nextSerial
  /-- No client is kept twice. -/
  handles : (registry.cache.map fun entry => entry.2.serial).Nodup

/-- A registry without clients is sound. -/
theorem sound_ofConnections (connections : ConnectionStore) :
    (ofConnections connections).Sound connections where
  store := rfl
  builtFor := by
    intro entry hentry
    cases hentry
  proper := by
    intro target htarget
    cases htarget
  once := List.nodup_nil
  serials := by
    intro entry hentry
    cases hentry
  handles := List.nodup_nil

/-- Dropping clients keeps the invariant. -/
theorem Sound.filter (h : registry.Sound connections)
    (stays : ClientTarget × ClientHandle → Bool) :
    { registry with cache := registry.cache.filter stays }.Sound connections where
  store := h.store
  builtFor entry hentry := h.builtFor entry (List.mem_of_mem_filter hentry)
  proper target htarget := h.proper target ((List.filter_sublist.map _).subset htarget)
  once := h.once.sublist (List.filter_sublist.map _)
  serials entry hentry := h.serials entry (List.mem_of_mem_filter hentry)
  handles := h.handles.sublist (List.filter_sublist.map _)

/-! ## Asking for clients -/

theorem not_mem_targets_of_cached?_eq_none (h : registry.cached? target = none) :
    target ∉ registry.targets := by
  unfold cached? at h
  rw [Option.map_eq_none_iff, List.find?_eq_none] at h
  intro hmem
  obtain ⟨entry, hentry, hkey⟩ := List.mem_map.1 hmem
  exact h entry hentry (by rw [hkey, beq_self_eq_true])

/-- A connection that is found leads to the address of its target. -/
theorem hostOf_of_connectionTo {connection : Connection}
    (hread : registry.connections.TemplateRead) (hproper : target.IsProper)
    (h : registry.connectionTo target = .ok connection) :
    registry.connections.hostOf target = some connection.host := by
  cases target with
  | controlPlane =>
    have hset := ConnectionStore.need_eq_ok_iff.1 h
    rw [ConnectionStore.hostOf, hset, Option.map_some]
  | apiServer =>
    have hset := ConnectionStore.need_eq_ok_iff.1 h
    rw [ConnectionStore.hostOf, hset, Option.map_some]
  | member name =>
    -- the only connection that is derived, so the only address that is put together here
    obtain ⟨template, htemplate, hproxy⟩ := bind_eq_ok_iff.1 h
    have hset := ConnectionStore.need_eq_ok_iff.1 htemplate
    have hname := ClusterName.validate_eq_ok_iff.1 (hproper name rfl).1
    rw [ConnectionStore.hostOf, hset, Option.map_some,
      Connection.host_memberProxy (hread template hset) hname hproxy]

/-- A client that is built is the target's and has the next number. -/
theorem builtFor_of_construct (hread : registry.connections.TemplateRead)
    (hproper : target.IsProper) (h : registry.construct target = .ok (handle, next)) :
    BuiltFor registry.connections target handle ∧ handle.serial = registry.nextSerial ∧
      next = { registry with nextSerial := registry.nextSerial + 1 } := by
  obtain ⟨connection, hconnection, hrest⟩ := bind_eq_ok_iff.1 h
  obtain ⟨client, hclient, hbuilt⟩ := bind_eq_ok_iff.1 hrest
  cases hbuilt
  refine ⟨⟨rfl, hostOf_of_connectionTo hread hproper hconnection, ?_⟩, rfl, rfl⟩
  rw [Connection.address_of_client hclient]
  rfl

/-- Keeping one more client under a target that had none keeps the invariant, if the client was
built for the target and has a number that none of the others has. -/
theorem Sound.append (h : registry.Sound connections) (hbuilt : BuiltFor connections target handle)
    (hproper : target.IsProper) (hnew : target ∉ registry.targets)
    (hserial : handle.serial = registry.nextSerial) :
    Sound connections
      { registry with
        cache := registry.cache ++ [(target, handle)]
        nextSerial := registry.nextSerial + 1 } where
  store := h.store
  builtFor := by
    intro entry hentry
    rcases List.mem_append.1 hentry with hold | hlast
    · exact h.builtFor entry hold
    · rw [List.mem_singleton.1 hlast]
      exact hbuilt
  proper := by
    intro other hother
    rw [targets, List.map_append] at hother
    rcases List.mem_append.1 hother with hold | hlast
    · exact h.proper other hold
    · rw [List.mem_singleton.1 hlast]
      exact hproper
  once := by
    rw [targets, List.map_append]
    refine List.nodup_append.2 ⟨h.once, List.nodup_singleton _, ?_⟩
    rintro old hold last hlast rfl
    rw [List.mem_singleton.1 hlast] at hold
    exact hnew hold
  serials := by
    intro entry hentry
    rcases List.mem_append.1 hentry with hold | hlast
    · exact Nat.lt_succ_of_lt (h.serials entry hold)
    · rw [List.mem_singleton.1 hlast, hserial]
      exact Nat.lt_succ_self _
  handles := by
    -- all clients that are kept have numbers below the next one
    rw [List.map_append]
    refine List.nodup_append.2 ⟨h.handles, List.nodup_singleton _, ?_⟩
    intro old hold last hlast heq
    obtain ⟨entry, hentry, rfl⟩ := List.mem_map.1 hold
    have hlast : last = handle.serial := List.mem_singleton.1 hlast
    have hbelow := h.serials entry hentry
    omega

/-- Asking for a target keeps the invariant, and yields a client that is kept for it now. -/
theorem Sound.obtain (h : registry.Sound connections) (hread : connections.TemplateRead)
    (hproper : target.IsProper) (hobtain : registry.obtain target = .ok (handle, next)) :
    next.Sound connections ∧ next.cached? target = some handle := by
  unfold ClientRegistry.obtain at hobtain
  cases hcached : registry.cached? target with
  | some kept =>
    rw [hcached] at hobtain
    cases hobtain
    exact ⟨h, hcached⟩
  | none =>
    rw [hcached] at hobtain
    obtain ⟨⟨own, built⟩, hconstruct, hoffer⟩ := bind_eq_ok_iff.1 hobtain
    rw [← h.store] at hread
    obtain ⟨hbuilt, hserial, rfl⟩ := builtFor_of_construct hread hproper hconstruct
    rw [h.store] at hbuilt
    -- nobody else was faster, so it is the client that was built that is kept
    have hfresh : (ClientRegistry.mk registry.connections registry.cache
        (registry.nextSerial + 1)).cached? own.target = none := by
      rw [hbuilt.bound]
      exact hcached
    rw [pure_eq_ok_iff, offer, hfresh, hbuilt.bound] at hoffer
    cases hoffer
    refine ⟨h.append hbuilt hproper (not_mem_targets_of_cached?_eq_none hcached) hserial, ?_⟩
    rw [cached?, Option.map_eq_none_iff] at hcached
    simp [cached?, List.find?_append, hcached]

/-- Asking for a member keeps the invariant, and yields a client that is kept for what its name
stands for. -/
theorem Sound.member (h : registry.Sound connections) (hread : connections.TemplateRead)
    (hmember : registry.member cluster = .ok (handle, next)) :
    next.Sound connections ∧ next.cached? (.ofCluster cluster) = some handle := by
  unfold ClientRegistry.member at hmember
  by_cases hname : cluster = managementCluster
  · rw [if_pos hname] at hmember
    rw [ClientTarget.ofCluster, if_pos hname]
    exact h.obtain hread (ClientTarget.isProper_of_memberName?_eq_none rfl) hmember
  · rw [if_neg hname] at hmember
    rw [ClientTarget.ofCluster, if_neg hname]
    -- the name is looked at before the cache is
    obtain ⟨valid, hvalid, hobtain⟩ := bind_eq_ok_iff.1 hmember
    refine h.obtain hread ?_ hobtain
    rintro name hmember
    cases hmember
    exact ⟨hvalid, hname⟩

/-! ## Runs -/

theorem Sound.keeping (h : registry.Sound connections)
    {outcome : Except ClientError (ClientHandle × ClientRegistry)}
    (hok : ∀ handle next, outcome = .ok (handle, next) → next.Sound connections) :
    (registry.keeping outcome).Sound connections := by
  cases outcome with
  | error error => exact h
  | ok asked => exact hok asked.1 asked.2 rfl

/-- Every operation keeps the invariant. -/
theorem Sound.act (h : registry.Sound connections) (hread : connections.TemplateRead)
    (action : RegistryAction) : (registry.act action).Sound connections := by
  have hobtain : ∀ target : ClientTarget, target.memberName? = none →
      (registry.keeping (registry.obtain target)).Sound connections := by
    intro target htarget
    have hproper := ClientTarget.isProper_of_memberName?_eq_none htarget
    exact h.keeping fun _ _ hok => (h.obtain hread hproper hok).1
  cases action with
  | controlPlane => exact hobtain .controlPlane rfl
  | apiServer => exact hobtain .apiServer rfl
  | member cluster => exact h.keeping fun _ _ hok => (h.member hread hok).1
  | clientFor identity => exact h
  | secretStore inNamespace => exact hobtain .apiServer rfl
  | invalidate target => exact h.filter _
  | invalidateMember name => exact h.filter _
  | invalidateAll =>
    have hnone := h.filter fun _ => false
    rwa [List.filter_false] at hnone
  | retain registered => exact h.filter _

/-- Some operations keep the invariant. -/
theorem Sound.run (h : registry.Sound connections) (hread : connections.TemplateRead)
    (actions : List RegistryAction) : (registry.run actions).Sound connections := by
  -- over the operations that are left, from whatever sound registry they are done
  induction actions generalizing registry with
  | nil => exact h
  | cons action rest ih => exact ih (h.act hread action)

end ClientRegistry

/-! ## Answers -/

/-- What an operation on the client cache answers with. -/
inductive RegistryAnswer where
  /-- A client that is kept. -/
  | client (handle : ClientHandle)
  /-- A client that acts for a caller. -/
  | clientOf (client : ApiClient)
  /-- The place of the fallback credential. -/
  | secretStore (store : SecretStore)
  /-- Whether there was a client to drop. -/
  | dropped (there : Bool)
  /-- Nothing to tell. -/
  | done
  /-- The members whose clients were dropped. -/
  | evicted (names : List String)

namespace ClientRegistry

variable {connections : ConnectionStore} {registry next : ClientRegistry} {handle : ClientHandle}
  {target : ClientTarget} {cluster : String}

/-- The answer of an operation. -/
def answer (registry : ClientRegistry) : RegistryAction → Except ClientError RegistryAnswer
  | .controlPlane => registry.controlPlane.map fun asked => .client asked.1
  | .apiServer => registry.apiServer.map fun asked => .client asked.1
  | .member cluster => (registry.member cluster).map fun asked => .client asked.1
  | .clientFor identity => (registry.clientFor identity).map .clientOf
  | .secretStore inNamespace =>
    (registry.secretStore inNamespace).map fun asked => .secretStore asked.1
  | .invalidate target => .ok (.dropped (registry.invalidate target).1)
  | .invalidateMember name => .ok (.dropped (registry.invalidateMember name).1)
  | .invalidateAll => .ok .done
  | .retain registered => .ok (.evicted (registry.retain registered).1)

/-- The rules for what operations answer and leave behind. -/
structure Lawful (registry : ClientRegistry) : Prop where
  /-- Asking for the management cluster is asking for the API server next to the dashboard. -/
  management : registry.answer (.member managementCluster) = registry.answer .apiServer
  /-- After one of the two was asked for, the other yields the same client. -/
  managementAgain : ∀ handle, registry.answer .apiServer = .ok (.client handle) →
    (registry.act .apiServer).answer (.member managementCluster) = .ok (.client handle) ∧
      (registry.act (.member managementCluster)).answer .apiServer = .ok (.client handle)
  /-- Failing leaves no trace. -/
  failed : ∀ action error, registry.answer action = .error error → registry.act action = registry
  /-- Neither does a client that acts for a caller. -/
  clientFor : ∀ identity, registry.act (.clientFor identity) = registry
  /-- Evicting tells the members that were kept but are not registered, each once. -/
  evicted : ∀ registered, ∃ names, registry.answer (.retain registered) = .ok (.evicted names) ∧
    names.Nodup ∧ ∀ name, name ∈ names ↔ .member name ∈ registry.targets ∧ name ∉ registered
  /-- Evicting drops their clients, and leaves every other one as it is. -/
  kept : ∀ registered entry, entry ∈ (registry.act (.retain registered)).cache ↔
    entry ∈ registry.cache ∧ ∀ name, entry.1 = .member name → name ∈ registered

theorem staysWith_iff {registered : List String} :
    staysWith registered target = true ↔ ∀ name, target = .member name → name ∈ registered := by
  cases target <;> simp [staysWith, ClientTarget.memberName?]

theorem memberName?_eq_some_iff {name : String} :
    target.memberName? = some name ↔ target = .member name := by
  cases target <;> simp [ClientTarget.memberName?]

/-- The members that are evicted are those that were kept and are not registered. -/
theorem mem_retain_iff {registered : List String} {name : String} :
    name ∈ (registry.retain registered).1 ↔
      .member name ∈ registry.targets ∧ name ∉ registered := by
  simp only [retain, List.mem_filterMap, List.mem_filter, memberName?_eq_some_iff]
  constructor
  · rintro ⟨target, ⟨hmem, hgoes⟩, rfl⟩
    rw [Bool.not_eq_true', ← Bool.not_eq_true, staysWith_iff] at hgoes
    exact ⟨hmem, fun hin => hgoes fun other heq => by cases heq; exact hin⟩
  · rintro ⟨hmem, hout⟩
    refine ⟨_, ⟨hmem, ?_⟩, rfl⟩
    rw [Bool.not_eq_true', ← Bool.not_eq_true, staysWith_iff]
    exact fun hall => hout (hall name rfl)

/-- No member is evicted twice. -/
theorem nodup_retain (h : registry.targets.Nodup) (registered : List String) :
    (registry.retain registered).1.Nodup := by
  -- different members have different names
  refine (h.filter _).filterMap ?_
  intro first second name hfirst hsecond
  rw [Option.mem_def, memberName?_eq_some_iff] at hfirst hsecond
  rw [hfirst, hsecond]

/-- An operation that fails leaves the cache as it was. -/
theorem act_of_answer_eq_error {action : RegistryAction} {error : ClientError}
    (h : registry.answer action = .error error) : registry.act action = registry := by
  cases action with
  | controlPlane => rw [act, map_eq_error_iff.1 h, keeping]
  | apiServer => rw [act, map_eq_error_iff.1 h, keeping]
  | member cluster => rw [act, map_eq_error_iff.1 h, keeping]
  | clientFor identity => rfl
  | secretStore inNamespace =>
    -- the place itself is never missing, so it was the client
    have hstore := map_eq_error_iff.1 h
    cases hasked : registry.apiServer with
    | error other => rw [act, hasked, keeping]
    | ok asked =>
      rw [secretStore, hasked] at hstore
      cases hstore
  | invalidate target => cases h
  | invalidateMember name => cases h
  | invalidateAll => cases h
  | retain registered => cases h

theorem obtain_of_cached? (h : registry.cached? target = some handle) :
    registry.obtain target = .ok (handle, registry) := by
  rw [ClientRegistry.obtain, h]

/-- The name of the management cluster stands for the API server next to the dashboard. -/
theorem member_managementCluster : registry.member managementCluster = registry.apiServer := by
  rw [ClientRegistry.member, if_pos rfl]

theorem act_apiServer_of_ok (h : registry.apiServer = .ok (handle, next)) :
    registry.act .apiServer = next := by
  rw [act, h, keeping]

theorem act_member_managementCluster :
    registry.act (.member managementCluster) = registry.act .apiServer := by
  rw [act, act, member_managementCluster]

theorem answer_member_managementCluster :
    registry.answer (.member managementCluster) = registry.answer .apiServer := by
  rw [answer, answer, member_managementCluster]

/-- A sound registry obeys the rules. -/
theorem Sound.lawful (h : registry.Sound connections) (hread : connections.TemplateRead) :
    registry.Lawful where
  management := answer_member_managementCluster
  managementAgain := by
    intro handle hanswer
    obtain ⟨⟨own, next⟩, hasked, heq⟩ := map_eq_ok_iff.1 hanswer
    cases heq
    -- the client that was handed out is the one that is kept, and it is handed out again
    have hkept := (h.obtain hread (ClientTarget.isProper_of_memberName?_eq_none rfl) hasked).2
    have hagain : next.answer .apiServer = .ok (.client own) :=
      map_eq_ok_iff.2 ⟨_, obtain_of_cached? hkept, rfl⟩
    rw [act_member_managementCluster, answer_member_managementCluster, act_apiServer_of_ok hasked]
    exact ⟨hagain, hagain⟩
  failed _ _ := act_of_answer_eq_error
  clientFor _ := rfl
  evicted registered :=
    ⟨(registry.retain registered).1, rfl, nodup_retain h.once registered, fun _ => mem_retain_iff⟩
  kept registered entry := by
    rw [ClientRegistry.act, retain, List.mem_filter, staysWith_iff]

/-- Whatever was done with a registry, it is sound and obeys the rules. -/
theorem sound_lawful_run (connections : ConnectionStore) (hread : connections.TemplateRead)
    (actions : List RegistryAction) :
    ((ofConnections connections).run actions).Sound connections ∧
      ((ofConnections connections).run actions).Lawful := by
  have hsound := (sound_ofConnections connections).run hread actions
  exact ⟨hsound, hsound.lawful hread⟩

/-- A cache behind one address, after members with a good and with a bad name were asked for and one
of them was no longer registered. -/
theorem sound_lawful_run_ofAddress :
    let connections := ConnectionStore.ofAddress
      { scheme := some "https", authority := "karmada:5443", writtenPath := "", query := none }
    let registry := (ofConnections connections).run
      [.controlPlane, .member "member1", .member managementCluster, .member "member2",
        .member "../escape", .clientFor (.ofToken "token"), .retain ["member2"]]
    connections.TemplateRead ∧ registry.Sound connections ∧ registry.Lawful ∧
      registry.cache.map (fun entry => (entry.1, entry.2.host)) =
        [(.controlPlane, "https://karmada:5443/"), (.apiServer, "https://karmada:5443/"),
          (.member "member2", "https://karmada:5443/apis/cluster.karmada.io/v1alpha1/clusters/"
            ++ "member2/proxy/")] := by
  intro connections registry
  have hread : connections.TemplateRead := by
    rintro template htemplate
    cases htemplate
    exact ⟨"https://karmada:5443", by rfl⟩
  obtain ⟨hsound, hlawful⟩ := sound_lawful_run connections hread
    [.controlPlane, .member "member1", .member managementCluster, .member "member2",
      .member "../escape", .clientFor (.ofToken "token"), .retain ["member2"]]
  exact ⟨hread, hsound, hlawful, by decide +kernel⟩

end ClientRegistry

end FleetDashboard
