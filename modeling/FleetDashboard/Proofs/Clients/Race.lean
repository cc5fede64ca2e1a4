import Mathlib.Data.Fin.VecNotation
import Mathlib.Data.List.FinRange
import Mathlib.Logic.Function.Basic
import FleetDashboard.Proofs.Clients.CacheTurn

/-!
# Races for a client

Asking for the client of a target takes three steps: the cache is looked at, a client is built, and
it is offered to the cache, which keeps the first one. Nothing keeps callers from taking these steps
in turns. Several of them may find no client and build one each, but all are handed the one that was
offered first, for as long as it is not dropped.

The argument rests on two invariants. Of the race: no target is kept twice, and every client that
was built and not yet offered is for the target that its caller asked for (`Race.Sound`). Of one
caller: the client that it was handed is the one that is kept (`Race.Holds`).

* `Race`: some callers before one cache; `Race.step`, `Race.run`: one step, and several.
* `Race.run_alone`: a caller that takes its three steps in a row obtains the client.
* `Race.Keeps`: the client of a target is never dropped in a run.
* `Race.FirstWins`, `Race.firstWins_run`: what first come, first kept amounts to, and that it holds
  of every such run.
-/

namespace FleetDashboard

/-! ## Callers -/

/-- How far a caller has come that asks for the client of a target. -/
inductive CallerProgress where
  /-- It has not begun. -/
  | waiting
  /-- It has looked, and there was no client. -/
  | missed
  /-- It has built a client and not offered it yet. -/
  | built (own : ClientHandle)
  /-- It was handed a client, after it had built one of its own or without that. -/
  | served (own : Option ClientHandle) (handle : ClientHandle)
  /-- Its client could not be built. -/
  | failed (error : ClientError)
deriving DecidableEq

/-- The steps of a caller. -/
inductive CallerStep where
  /-- It looks for a client. -/
  | look
  /-- It builds one. -/
  | build
  /-- It offers that to the cache and is handed the one that is kept. -/
  | offer
deriving DecidableEq

namespace CallerProgress

variable {registry : ClientRegistry} {target : ClientTarget} {step : CallerStep}
  {progress : CallerProgress}

/-- The client that the caller has built, be it kept or not. -/
def own? : CallerProgress → Option ClientHandle
  | .built own => some own
  | .served own _ => own
  | _ => none

/-- The client that the caller was handed. -/
def handed? : CallerProgress → Option ClientHandle
  | .served _ handle => some handle
  | _ => none

/-- What a step comes to for a caller that asks for a target, and for the cache. A step whose turn
it is not does nothing. -/
def advance (registry : ClientRegistry) (target : ClientTarget) :
    CallerStep → CallerProgress → CallerProgress × ClientRegistry
  | .look, .waiting =>
    match registry.cached? target with
    | some handle => (.served none handle, registry)
    | none => (.missed, registry)
  | .build, .missed =>
    match registry.construct target with
    | .ok (own, registry) => (.built own, registry)
    | .error error => (.failed error, registry)
  | .offer, .built own => (.served (some own) (registry.offer own).1, (registry.offer own).2)
  | _, progress => (progress, registry)

/-- All that a step can come to. -/
inductive Advance (registry : ClientRegistry) (target : ClientTarget) :
    CallerProgress → CallerProgress × ClientRegistry → Prop
  /-- It is not the step's turn. -/
  | idle (progress : CallerProgress) : Advance registry target progress (progress, registry)
  /-- There is a client. -/
  | hit (handle : ClientHandle) (hcached : registry.cached? target = some handle) :
      Advance registry target .waiting (.served none handle, registry)
  /-- There is none. -/
  | miss : Advance registry target .waiting (.missed, registry)
  /-- A client is built. -/
  | built (own : ClientHandle) (next : ClientRegistry)
      (hbuilt : registry.construct target = .ok (own, next)) :
      Advance registry target .missed (.built own, next)
  /-- It cannot be built. -/
  | failed (error : ClientError) : Advance registry target .missed (.failed error, registry)
  /-- The client is offered, and the one that is kept is handed out. -/
  | offered (own : ClientHandle) :
      Advance registry target (.built own)
        (.served (some own) (registry.offer own).1, (registry.offer own).2)

theorem advance_advance (registry : ClientRegistry) (target : ClientTarget) (step : CallerStep)
    (progress : CallerProgress) :
    Advance registry target progress (progress.advance registry target step) := by
  unfold CallerProgress.advance
  split
  · split
    next handle hcached => exact .hit handle hcached
    next => exact .miss
  · split
    next own next hbuilt => exact .built own next hbuilt
    next error hflaw => exact .failed error
  · exact .offered _
  · exact .idle progress

/-- A step turns the cache, and uses up numbers if anything. -/
theorem cacheTurn_advance (registry : ClientRegistry) (target : ClientTarget) (step : CallerStep)
    (progress : CallerProgress) :
    CacheTurn registry.cache (progress.advance registry target step).2.cache ∧
      registry.nextSerial ≤ (progress.advance registry target step).2.nextSerial := by
  have hadvance := advance_advance registry target step progress
  generalize progress.advance registry target step = result at hadvance ⊢
  cases hadvance with
  | idle => exact ⟨.same, Nat.le_refl _⟩
  | hit handle hcached => exact ⟨.same, Nat.le_refl _⟩
  | miss => exact ⟨.same, Nat.le_refl _⟩
  | built own next hbuilt =>
    obtain ⟨-, rfl⟩ := ClientRegistry.serial_of_construct hbuilt
    exact ⟨.same, Nat.le_succ _⟩
  | failed error => exact ⟨.same, Nat.le_refl _⟩
  | offered own =>
    exact ⟨registry.cacheTurn_offer own, Nat.le_of_eq (registry.nextSerial_offer own).symm⟩

/-- The client that a caller has built after a step was there before, or was built in the step for
the target that is asked for, under the next number. -/
theorem own?_advance {own : ClientHandle}
    (h : (progress.advance registry target step).1.own? = some own) :
    progress.own? = some own ∨
      own.target = target ∧ own.serial = registry.nextSerial ∧
        (progress.advance registry target step).2.nextSerial = registry.nextSerial + 1 := by
  have hadvance := advance_advance registry target step progress
  generalize progress.advance registry target step = result at hadvance h ⊢
  cases hadvance with
  | idle => exact Or.inl h
  | hit handle hcached => cases h
  | miss => cases h
  | built fresh next hbuilt =>
    cases h
    obtain ⟨hserial, rfl⟩ := ClientRegistry.serial_of_construct hbuilt
    exact Or.inr ⟨(ClientRegistry.construct_eq_ok hbuilt).1, hserial, rfl⟩
  | failed error => cases h
  | offered fresh => exact Or.inl h

theorem own?_advance_of_some {own : ClientHandle} (h : progress.own? = some own) :
    (progress.advance registry target step).1.own? = some own := by
  have hadvance := advance_advance registry target step progress
  generalize progress.advance registry target step = result at hadvance ⊢
  cases hadvance with
  | idle => exact h
  | hit handle hcached => cases h
  | miss => cases h
  | built fresh next hbuilt => cases h
  | failed error => cases h
  | offered fresh => exact h

/-- A caller that has built no client by the end of a step leaves the registry as it is. -/
theorem registry_advance_of_own?_eq_none
    (h : (progress.advance registry target step).1.own? = none) :
    (progress.advance registry target step).2 = registry := by
  have hadvance := advance_advance registry target step progress
  generalize progress.advance registry target step = result at hadvance h ⊢
  cases hadvance with
  | idle => rfl
  | hit handle hcached => rfl
  | miss => rfl
  | built own next hbuilt => cases h
  | failed error => rfl
  | offered own => cases h

/-- A client that a caller was handed by the end of a step it was handed before, or it is the one
that is kept after the step. -/
theorem handed?_advance {handle : ClientHandle}
    (hown : ∀ own, progress.own? = some own → own.target = target)
    (h : (progress.advance registry target step).1.handed? = some handle) :
    progress.handed? = some handle ∨
      (progress.advance registry target step).2.cached? target = some handle := by
  have hadvance := advance_advance registry target step progress
  generalize progress.advance registry target step = result at hadvance h ⊢
  cases hadvance with
  | idle => exact Or.inl h
  | hit kept hcached =>
    cases h
    exact Or.inr hcached
  | miss => cases h
  | built own next hbuilt => cases h
  | failed error => cases h
  | offered own =>
    cases h
    have hkept := registry.cached?_offer own
    rw [hown own rfl] at hkept
    exact Or.inr hkept

end CallerProgress

/-! ## Races -/

/-- Callers before one cache, each of which asks for the client of a target. -/
structure Race (ι : Type) where
  /-- The connections and the clients that are kept. -/
  registry : ClientRegistry
  /-- What each caller asks for. -/
  wanted : ι → ClientTarget
  /-- How far each caller has come. -/
  progress : ι → CallerProgress

/-- What can happen in a race. -/
inductive RaceEvent (ι : Type) where
  /-- A caller takes a step. -/
  | turn (caller : ι) (step : CallerStep)
  /-- Somebody else uses the cache. -/
  | act (action : RegistryAction)
  /-- Connections are set. -/
  | connect (connections : ConnectionStore)

/-- The caller whose step an event is. -/
def RaceEvent.mover? {ι : Type} : RaceEvent ι → Option ι
  | .turn caller _ => some caller
  | _ => none

namespace Race

variable {ι : Type} [DecidableEq ι] {race start other : Race ι} {event : RaceEvent ι}
  {events : List (RaceEvent ι)} {target : ClientTarget} {handle : ClientHandle} {caller : ι}

/-- A race before which nothing has happened. -/
def ofConnections (connections : ConnectionStore) (wanted : ι → ClientTarget) : Race ι :=
  { registry := .ofConnections connections, wanted, progress := fun _ => .waiting }

/-- The race after a caller's step. -/
def turn (race : Race ι) (caller : ι) (step : CallerStep) : Race ι :=
  let result := (race.progress caller).advance race.registry (race.wanted caller) step
  { race with
    registry := result.2
    progress := Function.update race.progress caller result.1 }

/-- The race after an event. -/
def step (race : Race ι) : RaceEvent ι → Race ι
  | .turn caller step => race.turn caller step
  | .act action => { race with registry := race.registry.act action }
  | .connect connections => { race with registry := { race.registry with connections } }

/-- The race after some events, the earliest first. -/
def run (race : Race ι) (events : List (RaceEvent ι)) : Race ι :=
  events.foldl step race

@[simp]
theorem run_nil (race : Race ι) : race.run [] = race := rfl

@[simp]
theorem run_cons (race : Race ι) (event : RaceEvent ι) (rest : List (RaceEvent ι)) :
    race.run (event :: rest) = (race.step event).run rest := rfl

theorem run_append (race : Race ι) (before after : List (RaceEvent ι)) :
    race.run (before ++ after) = (race.run before).run after :=
  List.foldl_append

/-- No event changes what callers ask for. -/
@[simp]
theorem wanted_step (race : Race ι) (event : RaceEvent ι) :
    (race.step event).wanted = race.wanted := by
  cases event <;> rfl

/-- A caller that takes its three steps in a row obtains the client, or fails as asking fails. -/
theorem run_alone (race : Race ι) (hwaiting : race.progress caller = .waiting) :
    let after := race.run [.turn caller .look, .turn caller .build, .turn caller .offer]
    match race.registry.obtain (race.wanted caller) with
    | .ok (handle, registry) =>
      after.registry = registry ∧ (after.progress caller).handed? = some handle
    | .error error => after.registry = race.registry ∧ after.progress caller = .failed error := by
  simp only [run_cons, run_nil, step, turn, Function.update_self, Function.update_idem, hwaiting,
    ClientRegistry.obtain]
  cases hcached : race.registry.cached? (race.wanted caller) with
  | some handle => simp [CallerProgress.advance, CallerProgress.handed?, hcached]
  | none =>
    cases hbuilt : race.registry.construct (race.wanted caller) with
    | error error =>
      simp [CallerProgress.advance, hcached, hbuilt, bind, Except.bind]
    | ok built =>
      simp [CallerProgress.advance, CallerProgress.handed?, hcached, hbuilt, bind, Except.bind,
        pure, Except.pure]

/-! ## The invariant -/

/-- The invariant of a race. -/
structure Sound (race : Race ι) : Prop where
  /-- Every client is kept under its own target. -/
  keyed : race.registry.KeyedByTarget
  /-- No target is kept twice. -/
  once : race.registry.targets.Nodup
  /-- Callers build clients for what they ask for. -/
  own : ∀ caller own, (race.progress caller).own? = some own → own.target = race.wanted caller
  /-- The number of the next client is a new one. -/
  serials : ∀ caller own, (race.progress caller).own? = some own →
    own.serial < race.registry.nextSerial
  /-- No two callers have built the same client. -/
  apart : ∀ first second own other, first ≠ second → (race.progress first).own? = some own →
    (race.progress second).own? = some other → own.serial ≠ other.serial

omit [DecidableEq ι] in
theorem sound_ofConnections (connections : ConnectionStore) (wanted : ι → ClientTarget) :
    (ofConnections connections wanted).Sound where
  keyed := ClientRegistry.keyedByTarget_ofConnections connections
  once := List.nodup_nil
  own _ _ h := by cases h
  serials _ _ h := by cases h
  apart _ _ _ _ _ h := by cases h

/-- Every event turns the cache, and uses up numbers if anything. -/
theorem cacheTurn_step (race : Race ι) (event : RaceEvent ι) :
    CacheTurn race.registry.cache (race.step event).registry.cache ∧
      race.registry.nextSerial ≤ (race.step event).registry.nextSerial := by
  cases event with
  | turn caller step => exact CallerProgress.cacheTurn_advance _ _ _ _
  | act action => exact race.registry.cacheTurn_act action
  | connect connections => exact ⟨.same, Nat.le_refl _⟩

/-- The client that a caller has built after an event was there before, or has just been built under
the next number. -/
theorem own?_step {own : ClientHandle}
    (h : ((race.step event).progress caller).own? = some own) :
    (race.progress caller).own? = some own ∨
      own.target = race.wanted caller ∧ own.serial = race.registry.nextSerial ∧
        (race.step event).registry.nextSerial = race.registry.nextSerial + 1 ∧
        ∀ other ≠ caller, (race.step event).progress other = race.progress other := by
  cases event with
  | turn mover step =>
    by_cases hmover : caller = mover
    · subst hmover
      simp only [Race.step, turn, Function.update_self] at h ⊢
      rcases CallerProgress.own?_advance h with hold | ⟨htarget, hserial, hnext⟩
      · exact Or.inl hold
      · exact Or.inr ⟨htarget, hserial, hnext, fun other hother => Function.update_of_ne hother _ _⟩
    · simp only [Race.step, turn, Function.update_of_ne hmover] at h
      exact Or.inl h
  | act action => exact Or.inl h
  | connect connections => exact Or.inl h

/-- Every event keeps the invariant. -/
theorem Sound.step (h : race.Sound) (event : RaceEvent ι) : (race.step event).Sound := by
  obtain ⟨hturn, hle⟩ := race.cacheTurn_step event
  refine ⟨hturn.keyed h.keyed, hturn.nodup h.once, ?_, ?_, ?_⟩
  · intro caller own hown
    rw [wanted_step]
    rcases own?_step hown with hold | ⟨htarget, -⟩
    · exact h.own caller own hold
    · exact htarget
  · intro caller own hown
    rcases own?_step hown with hold | ⟨-, hserial, hnext, -⟩
    · exact Nat.lt_of_lt_of_le (h.serials caller own hold) hle
    · omega
  · intro first second own other hne hfirst hsecond
    -- one of the two at most was built just now, under a number that is greater than all before
    rcases own?_step hfirst with hold | ⟨-, hserial, -, hothers⟩
    · rcases own?_step hsecond with hold' | ⟨-, hserial, -⟩
      · exact h.apart first second own other hne hold hold'
      · have hbelow := h.serials first own hold
        omega
    · rw [hothers second hne.symm] at hsecond
      have hbelow := h.serials second other hsecond
      omega

theorem Sound.run (h : race.Sound) (events : List (RaceEvent ι)) : (race.run events).Sound := by
  induction events generalizing race with
  | nil => exact h
  | cons event rest ih => exact ih (h.step event)

/-! ## Runs that keep a target -/

/-- No event of a run drops the client of a target. -/
def Keeps (target : ClientTarget) : Race ι → List (RaceEvent ι) → Prop
  | _, [] => True
  | race, event :: rest =>
    (target ∈ race.registry.targets → target ∈ (race.step event).registry.targets) ∧
      Keeps target (race.step event) rest

instance decidableKeeps (target : ClientTarget) :
    (race : Race ι) → (events : List (RaceEvent ι)) → Decidable (Keeps target race events)
  | _, [] => .isTrue trivial
  | race, event :: rest =>
    have := decidableKeeps target (race.step event) rest
    inferInstanceAs (Decidable (_ ∧ _))

theorem keeps_append {before after : List (RaceEvent ι)} :
    Keeps target race (before ++ after) ↔
      Keeps target race before ∧ Keeps target (race.run before) after := by
  induction before generalizing race with
  | nil => simp [Keeps]
  | cons event rest ih => rw [List.cons_append, Keeps, Keeps, ih, run_cons, and_assoc]

/-- The client that is kept for a target is kept through an event that does not drop it. -/
theorem mem_cache_step (hsound : race.Sound) (hmem : (target, handle) ∈ race.registry.cache)
    (hstays : target ∈ race.registry.targets → target ∈ (race.step event).registry.targets) :
    (target, handle) ∈ (race.step event).registry.cache :=
  (race.cacheTurn_step event).1.mem_of_mem hsound.once hmem (hstays (List.mem_map.2 ⟨_, hmem, rfl⟩))

theorem mem_cache_run (hsound : race.Sound) (hkeeps : Keeps target race events)
    (hmem : (target, handle) ∈ race.registry.cache) :
    (target, handle) ∈ (race.run events).registry.cache := by
  induction events generalizing race with
  | nil => exact hmem
  | cons event rest ih =>
    exact ih (hsound.step event) hkeeps.2 (mem_cache_step hsound hmem hkeeps.1)

/-- The client that a caller was handed, if any, is the one that is kept for a target. -/
def Holds (race : Race ι) (target : ClientTarget) (caller : ι) : Prop :=
  ∀ handle, (race.progress caller).handed? = some handle → (target, handle) ∈ race.registry.cache

/-- What holds of a caller that asks for a target holds after an event that does not drop its
client. -/
theorem Holds.step (h : race.Holds target caller) (hsound : race.Sound)
    (hwanted : race.wanted caller = target)
    (hstays : target ∈ race.registry.targets → target ∈ (race.step event).registry.targets) :
    (race.step event).Holds target caller := by
  subst hwanted
  intro handle hhanded
  -- a client that was handed out before is kept as before
  have hbefore : (race.progress caller).handed? = some handle →
      (race.wanted caller, handle) ∈ (race.step event).registry.cache :=
    fun hold => mem_cache_step hsound (h handle hold) hstays
  cases event with
  | act action => exact hbefore hhanded
  | connect connections => exact hbefore hhanded
  | turn mover step =>
    by_cases hmover : caller = mover
    · subst hmover
      simp only [Race.step, turn, Function.update_self] at hhanded
      rcases CallerProgress.handed?_advance (hsound.own caller) hhanded with hold | hnow
      · exact hbefore hold
      · exact ClientRegistry.mem_cache_of_cached? hnow
    · simp only [Race.step, turn, Function.update_of_ne hmover] at hhanded
      exact hbefore hhanded

theorem Holds.run (h : race.Holds target caller) (hsound : race.Sound)
    (hwanted : race.wanted caller = target) (hkeeps : Keeps target race events) :
    (race.run events).Holds target caller := by
  -- over the events that are left, from whatever sound race they happen in
  induction events generalizing race with
  | nil => exact h
  | cons event rest ih =>
    refine ih (h.step hsound hwanted hkeeps.1) (hsound.step event) ?_ hkeeps.2
    rw [wanted_step, hwanted]

/-! ## Callers that fail -/

/-- Two races that differ in how far one caller has come and in nothing else. -/
structure AgreesBut (caller : ι) (race other : Race ι) : Prop where
  /-- The cache is the same. -/
  registry : other.registry = race.registry
  /-- All ask for the same. -/
  wanted : other.wanted = race.wanted
  /-- All others have come as far. -/
  progress : ∀ bystander ≠ caller, other.progress bystander = race.progress bystander

/-- Events that are no steps of the caller keep races the same but for it. -/
theorem AgreesBut.step (h : AgreesBut caller race other) (hmover : event.mover? ≠ some caller) :
    AgreesBut caller (race.step event) (other.step event) := by
  cases event with
  | turn mover step =>
    have hne : mover ≠ caller := fun heq => hmover (congrArg some heq)
    have hresult : (other.progress mover).advance other.registry (other.wanted mover) step =
        (race.progress mover).advance race.registry (race.wanted mover) step := by
      rw [h.registry, h.wanted, h.progress mover hne]
    refine ⟨?_, h.wanted, ?_⟩
    · simp only [Race.step, turn, hresult]
    · intro bystander hbystander
      simp only [Race.step, turn, hresult]
      by_cases heq : bystander = mover
      · rw [heq, Function.update_self, Function.update_self]
      · rw [Function.update_of_ne heq, Function.update_of_ne heq, h.progress bystander hbystander]
  | act action =>
    refine ⟨?_, h.wanted, h.progress⟩
    simp only [Race.step, h.registry]
  | connect connections =>
    refine ⟨?_, h.wanted, h.progress⟩
    simp only [Race.step, h.registry]

/-- So does a step that the caller takes in one of them without having built a client. -/
theorem AgreesBut.step_left (h : AgreesBut caller race other) (hmover : event.mover? = some caller)
    (hown : ((race.step event).progress caller).own? = none) :
    AgreesBut caller (race.step event) other := by
  cases event with
  | turn mover step =>
    cases hmover
    simp only [Race.step, turn, Function.update_self] at hown
    refine ⟨?_, h.wanted, ?_⟩
    · simp only [Race.step, turn, CallerProgress.registry_advance_of_own?_eq_none hown, h.registry]
    · intro bystander hbystander
      simp only [Race.step, turn, Function.update_of_ne hbystander]
      exact h.progress bystander hbystander
  | act action => cases hmover
  | connect connections => cases hmover

theorem own?_run_of_some {own : ClientHandle} (h : (race.progress caller).own? = some own) :
    ((race.run events).progress caller).own? = some own := by
  induction events generalizing race with
  | nil => exact h
  | cons event rest ih =>
    refine ih ?_
    cases event with
    | act action => exact h
    | connect connections => exact h
    | turn mover step =>
      by_cases hmover : caller = mover
      · subst hmover
        simp only [Race.step, turn, Function.update_self]
        exact CallerProgress.own?_advance_of_some h
      · simp only [Race.step, turn, Function.update_of_ne hmover]
        exact h

/-- Without the steps of a caller that has built no client, a run comes to the same but for how far
that caller has come. -/
theorem AgreesBut.run_without (h : AgreesBut caller race other)
    (hown : ((race.run events).progress caller).own? = none) :
    AgreesBut caller (race.run events)
      (other.run (events.filter fun event => event.mover? ≠ some caller)) := by
  induction events generalizing race other with
  | nil => exact h
  | cons event rest ih =>
    by_cases hmover : event.mover? = some caller
    · rw [List.filter_cons_of_neg (by simpa using hmover)]
      refine ih (h.step_left hmover ?_) hown
      -- had it built a client by now, it would have one in the end
      cases hnow : ((race.step event).progress caller).own? with
      | none => rfl
      | some own =>
        rw [run_cons, own?_run_of_some hnow] at hown
        cases hown
    · rw [List.filter_cons_of_pos (by simpa using hmover)]
      exact ih (h.step hmover) hown

/-! ## First come, first kept -/

/-- What first come, first kept amounts to for the callers that ask for a target, in a run that
begins at some point of a race. -/
structure FirstWins (start : Race ι) (target : ClientTarget) (events : List (RaceEvent ι)) :
    Prop where
  /-- Whoever is handed a client at any moment of the run is handed the one that is kept in the
  end. -/
  same : ∀ before after, before ++ after = events → ∀ caller handle, start.wanted caller = target →
    (start.progress caller).handed? = none →
    ((start.run before).progress caller).handed? = some handle →
    (start.run events).registry.cached? target = some handle
  /-- No two clients are ever kept for the target, be it at different moments. -/
  once : ∀ before between after, before ++ between ++ after = events → ∀ first second,
    (target, first) ∈ (start.run before).registry.cache →
    (target, second) ∈ (start.run (before ++ between)).registry.cache → first = second
  /-- Callers that build a client build one of their own, so all of them but one were handed
  another. -/
  apart : ∀ first second own other, first ≠ second →
    ((start.run events).progress first).own? = some own →
    ((start.run events).progress second).own? = some other → own.serial ≠ other.serial
  /-- A caller that fails changes nothing: without its steps, the cache and all other callers come
  to the same. -/
  failed : ∀ caller error, (start.run events).progress caller = .failed error →
    AgreesBut caller (start.run events)
      (start.run (events.filter fun event => event.mover? ≠ some caller))

/-- From whatever point of a race, in every run that never drops the client of a target, the first
one that is kept is handed to everybody. -/
theorem firstWins_run (connections : ConnectionStore) (wanted : ι → ClientTarget)
    (earlier events : List (RaceEvent ι)) (target : ClientTarget)
    (hkeeps : Keeps target ((ofConnections connections wanted).run earlier) events) :
    FirstWins ((ofConnections connections wanted).run earlier) target events := by
  have hstart := (sound_ofConnections connections wanted).run earlier
  generalize (ofConnections connections wanted).run earlier = start at hstart hkeeps ⊢
  refine ⟨?_, ?_, (hstart.run events).apart, ?_⟩
  · rintro before after rfl caller handle hwanted hnone hhanded
    obtain ⟨hbefore, hafter⟩ := keeps_append.1 hkeeps
    -- it was handed nothing at first, so at any moment what it was handed is kept
    have hholds : start.Holds target caller := by
      intro early hearly
      rw [hnone] at hearly
      cases hearly
    have hmem := hholds.run hstart hwanted hbefore handle hhanded
    rw [ClientRegistry.cached?_eq_some_iff (hstart.run _).once, run_append]
    exact mem_cache_run (hstart.run before) hafter hmem
  · rintro before between after rfl first second hfirst hsecond
    obtain ⟨hbetween, -⟩ := keeps_append.1 hkeeps
    obtain ⟨-, hbetween⟩ := keeps_append.1 hbetween
    -- the first one is still kept when the second one is
    have hlater := mem_cache_run (hstart.run before) hbetween hfirst
    rw [← run_append, ← ClientRegistry.cached?_eq_some_iff (hstart.run _).once] at hlater
    rw [← ClientRegistry.cached?_eq_some_iff (hstart.run _).once, hlater] at hsecond
    exact Option.some.inj hsecond
  · intro caller error hfailed
    have hown : ((start.run events).progress caller).own? = none := by
      rw [hfailed]
      rfl
    have hself : AgreesBut caller start start := ⟨rfl, rfl, fun _ _ => rfl⟩
    exact hself.run_without hown

/-- Two callers ask for `member1` and one for `member2`. Both of the two look before either has
built a client, and the one that builds last offers first: both are handed its client. -/
theorem firstWins_run_twoBuilders :
    let connections := ConnectionStore.ofAddress
      { scheme := some "https", authority := "karmada:5443", writtenPath := "", query := none }
    let wanted : Fin 3 → ClientTarget := ![.member "member1", .member "member1", .member "member2"]
    let earlier : List (RaceEvent (Fin 3)) :=
      [.act (.member "member1"), .act (.member "member2"), .act (.invalidateMember "member1")]
    let events : List (RaceEvent (Fin 3)) :=
      [.turn 0 .look, .turn 1 .look, .turn 0 .build, .act (.retain ["member1"]), .turn 2 .look,
        .turn 1 .build, .turn 1 .offer, .turn 2 .build, .act (.invalidate .controlPlane),
        .turn 0 .offer, .turn 2 .offer]
    let start := (ofConnections connections wanted).run earlier
    Keeps (.member "member1") start events ∧ FirstWins start (.member "member1") events ∧
      (List.finRange 3).map (fun caller =>
          (((start.run events).progress caller).own?.map (·.serial),
            ((start.run events).progress caller).handed?.map (·.serial))) =
        [(some 2, some 3), (some 3, some 3), (some 4, some 4)] := by
  intro connections wanted earlier events start
  have hkeeps : Keeps (.member "member1") start events := by decide +kernel
  exact ⟨hkeeps, firstWins_run connections wanted earlier events _ hkeeps, by decide +kernel⟩

end Race

end FleetDashboard
