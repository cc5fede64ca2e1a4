import Mathlib.Data.List.Induction
import Mathlib.Logic.Function.Basic
import FleetDashboard.Connection.Store

/-!
# Races to set the connections

Each of the three connections of the process is set at most once, but setting the control plane sets
two of them, the template first, and nothing keeps others from setting and reading in between. Still
the two never disagree: whoever is the first to set the template is the only one to come to the
second step, so nobody can have set the control plane before that one does.

The argument rests on one invariant, that a connection is set exactly when some caller has set it,
and that only one has (`ConnectionRace.Sound`). It follows from what a turn can come to: nothing is
set, or a connection that was not set is set by the caller whose turn it is
(`ConnectionRace.turn_cases`).

* `ConnectionRace`: some callers before one store; `ConnectionRace.run`: their turns, in any order.
* `ConnectionRace.run_alone`: a caller that takes its turns in a row sets the control plane.
* `ConnectionRace.SetOnce`, `ConnectionRace.setOnce_run`: what set at most once amounts to, and that
  it holds of every race that begins with an empty store.
-/

namespace FleetDashboard

/-! ## Calls -/

/-- One of the connections of a store. -/
inductive ConnectionKind where
  /-- To the API server. -/
  | apiServer
  /-- To the control plane. -/
  | controlPlane
  /-- The template for member clusters. -/
  | memberTemplate
deriving DecidableEq

namespace ConnectionStore

/-- The connection of a kind, if it is set. -/
def get? (store : ConnectionStore) : ConnectionKind → Option Connection
  | .apiServer => store.apiServer?
  | .controlPlane => store.controlPlane?
  | .memberTemplate => store.memberTemplate?

/-- The connection of a kind, as it is read. -/
def get (store : ConnectionStore) : ConnectionKind → Except ClientError Connection
  | .apiServer => store.apiServer
  | .controlPlane => store.controlPlane
  | .memberTemplate => store.memberTemplate

/-- What is read is what is set. -/
theorem get_eq_ok_iff {store : ConnectionStore} {kind : ConnectionKind} {connection : Connection} :
    store.get kind = .ok connection ↔ store.get? kind = some connection := by
  cases kind <;> exact need_eq_ok_iff

end ConnectionStore

/-- What is asked of a store. -/
inductive ConnectionCall where
  /-- To set the connection to the API server. -/
  | setApiServer (connection : Connection)
  /-- To set the connection to the control plane, and the template. -/
  | setControlPlane (connection : Connection)
  /-- To read a connection. -/
  | get (kind : ConnectionKind)
deriving DecidableEq

/-- How far a call has come. -/
inductive CallState where
  /-- It has not begun. -/
  | waiting
  /-- It has set the template, and the control plane comes next. -/
  | seeded
  /-- It has set what it should set, or failed. -/
  | set (outcome : Except ClientError Unit)
  /-- It has read a connection, or there was none. -/
  | got (answer : Except ClientError Connection)

namespace ConnectionCall

variable {store : ConnectionStore} {call : ConnectionCall} {state : CallState}

/-- The last step of a call that sets: what is set, or why nothing is. -/
def finish (store : ConnectionStore) :
    Except ClientError ConnectionStore → CallState × ConnectionStore
  | .ok next => (.set (.ok ()), next)
  | .error error => (.set (.error error), store)

/-- What the next step of a call comes to, and the store afterwards. A call that is over does
nothing. -/
def advance (store : ConnectionStore) : ConnectionCall → CallState → CallState × ConnectionStore
  | .setApiServer connection, .waiting => finish store (store.setApiServer connection)
  | .setControlPlane connection, .waiting =>
    match store.setMemberTemplate connection with
    | .ok next => (.seeded, next)
    | .error error => (.set (.error error), store)
  | .setControlPlane connection, .seeded => finish store (store.fillControlPlane connection)
  | .get kind, .waiting => (.got (store.get kind), store)
  | _, state => (state, store)

/-- A call that has come to a state has set a connection of a kind. -/
def HasSet (call : ConnectionCall) (state : CallState) : ConnectionKind → Connection → Prop
  | .apiServer, connection => call = .setApiServer connection ∧ state = .set (.ok ())
  | .controlPlane, connection => call = .setControlPlane connection ∧ state = .set (.ok ())
  | .memberTemplate, connection =>
    call = .setControlPlane connection ∧ (state = .seeded ∨ state = .set (.ok ()))

/-- The connection that has to be unset for a call to succeed. -/
def needsUnset? : ConnectionCall → Option ConnectionKind
  | .setApiServer _ => some .apiServer
  | .setControlPlane _ => some .memberTemplate
  | .get _ => none

/-- All that a step can come to. -/
inductive Advance (store : ConnectionStore) (call : ConnectionCall) (state : CallState) :
    CallState × ConnectionStore → Prop
  /-- The call is over. -/
  | idle : Advance store call state (state, store)
  /-- A connection is read. -/
  | got (kind : ConnectionKind) (hcall : call = .get kind) :
      Advance store call state (.got (store.get kind), store)
  /-- What has to be unset is set. -/
  | late (kind : ConnectionKind) (error : ClientError) (hstate : state = .waiting)
      (hneeds : call.needsUnset? = some kind) (hset : store.get? kind ≠ none) :
      Advance store call state (.set (.error error), store)
  /-- A connection is set that was not set before. -/
  | sets (kind : ConnectionKind) (connection : Connection) (next : CallState)
      (later : ConnectionStore) (hunset : store.get? kind = none)
      (hlater : ∀ other, later.get? other = if other = kind then some connection
        else store.get? other)
      (hhas : ∀ other set, call.HasSet next other set ↔
        call.HasSet state other set ∨ other = kind ∧ set = connection) :
      Advance store call state (next, later)

theorem advance_advance (store : ConnectionStore) (call : ConnectionCall) (state : CallState)
    (hnext : ∀ connection, call = .setControlPlane connection → state = .seeded →
      store.controlPlane? = none) :
    Advance store call state (call.advance store state) := by
  unfold ConnectionCall.advance
  split
  next connection =>
    unfold ConnectionStore.setApiServer
    cases hunset : store.apiServer? with
    | some other => exact .late .apiServer _ rfl rfl (by simp [ConnectionStore.get?, hunset])
    | none =>
      refine .sets .apiServer connection _ _ hunset ?_ ?_
      · rintro ⟨⟩ <;> rfl
      · rintro ⟨⟩ set <;> simp [HasSet, eq_comm]
  next connection =>
    unfold ConnectionStore.setMemberTemplate
    cases hunset : store.memberTemplate? with
    | some other => exact .late .memberTemplate _ rfl rfl (by simp [ConnectionStore.get?, hunset])
    | none =>
      refine .sets .memberTemplate connection _ _ hunset ?_ ?_
      · rintro ⟨⟩ <;> rfl
      · rintro ⟨⟩ set <;> simp [HasSet, eq_comm]
  next connection =>
    have hunset := hnext connection rfl rfl
    unfold ConnectionStore.fillControlPlane
    rw [hunset]
    refine .sets .controlPlane connection _ _ hunset ?_ ?_
    · rintro ⟨⟩ <;> rfl
    · rintro ⟨⟩ set <;> simp [HasSet, eq_comm]
  next kind => exact .got kind rfl
  next => exact .idle

/-- A call that has failed has set nothing. -/
theorem not_hasSet_error {error : ClientError} {kind : ConnectionKind} {connection : Connection} :
    ¬ call.HasSet (.set (.error error)) kind connection := by
  cases kind <;> simp [HasSet]

/-- Nothing is set in a step, or a connection that was not set before. -/
theorem Advance.keeps_or_sets {next : CallState} {later : ConnectionStore}
    (h : Advance store call state (next, later)) :
    (later = store ∧
      ∀ kind connection, call.HasSet next kind connection ↔ call.HasSet state kind connection) ∨
    ∃ kind connection, store.get? kind = none ∧
      (∀ other, later.get? other = if other = kind then some connection else store.get? other) ∧
      ∀ other set, call.HasSet next other set ↔
        call.HasSet state other set ∨ other = kind ∧ set = connection := by
  cases h with
  | idle => exact Or.inl ⟨rfl, fun _ _ => Iff.rfl⟩
  | got kind hcall =>
    subst hcall
    exact Or.inl ⟨rfl, fun other connection => by cases other <;> simp [HasSet]⟩
  | late kind error hstate hneeds hset =>
    subst hstate
    refine Or.inl ⟨rfl, fun other connection => iff_of_false not_hasSet_error ?_⟩
    cases other <;> simp [HasSet]
  | sets kind connection next later hunset hlater hhas =>
    exact Or.inr ⟨kind, connection, hunset, hlater, hhas⟩

/-- A call that fails in a step is late. -/
theorem Advance.ne_none_of_error {next : CallState} {later : ConnectionStore} {error : ClientError}
    {kind : ConnectionKind} (h : Advance store call state (next, later))
    (hnext : next = .set (.error error)) (hneeds : call.needsUnset? = some kind)
    (hbefore : state = .set (.error error) → store.get? kind ≠ none) :
    store.get? kind ≠ none := by
  cases h with
  | idle => exact hbefore hnext
  | got other hcall => cases hnext
  | late other reason hstate hother hset =>
    rw [hneeds, Option.some.injEq] at hother
    exact hother ▸ hset
  | sets other connection next later hunset hlater hhas =>
    -- a call that has set a connection has not failed
    have hset := (hhas other connection).2 (Or.inr ⟨rfl, rfl⟩)
    rw [hnext] at hset
    exact absurd hset not_hasSet_error

end ConnectionCall

/-! ## Races -/

/-- Callers before one store. -/
structure ConnectionRace (ι : Type) where
  /-- The connections that have been set. -/
  store : ConnectionStore
  /-- What each caller asks. -/
  calls : ι → ConnectionCall
  /-- How far each call has come. -/
  states : ι → CallState

namespace ConnectionRace

variable {ι : Type} [DecidableEq ι] {race : ConnectionRace ι} {caller : ι} {kind : ConnectionKind}
  {connection : Connection}

/-- A race that begins with an empty store. -/
def ofCalls (calls : ι → ConnectionCall) : ConnectionRace ι :=
  { store := .empty, calls, states := fun _ => .waiting }

/-- The race after a caller's turn. -/
def turn (race : ConnectionRace ι) (caller : ι) : ConnectionRace ι :=
  let result := (race.calls caller).advance race.store (race.states caller)
  { race with
    store := result.2
    states := Function.update race.states caller result.1 }

/-- The race after some turns, the earliest first. -/
def run (race : ConnectionRace ι) (turns : List ι) : ConnectionRace ι :=
  turns.foldl turn race

@[simp]
theorem run_nil (race : ConnectionRace ι) : race.run [] = race := rfl

@[simp]
theorem run_cons (race : ConnectionRace ι) (caller : ι) (rest : List ι) :
    race.run (caller :: rest) = (race.turn caller).run rest := rfl

theorem run_append (race : ConnectionRace ι) (before after : List ι) :
    race.run (before ++ after) = (race.run before).run after :=
  List.foldl_append

@[simp]
theorem calls_run (race : ConnectionRace ι) (turns : List ι) :
    (race.run turns).calls = race.calls := by
  induction turns generalizing race with
  | nil => rfl
  | cons caller rest ih => exact ih (race.turn caller)

/-- A caller that takes its two turns in a row sets the control plane as it is set in one go. -/
theorem run_alone (hcall : race.calls caller = .setControlPlane connection)
    (hwaiting : race.states caller = .waiting) :
    let after := race.run [caller, caller]
    match race.store.setControlPlane connection with
    | .ok store => after.store = store ∧ after.states caller = .set (.ok ())
    | .error error => after.states caller = .set (.error error) := by
  simp only [run_cons, run_nil, turn, Function.update_self, hcall, hwaiting,
    ConnectionStore.setControlPlane]
  cases htemplate : race.store.setMemberTemplate connection with
  | error error => simp [ConnectionCall.advance, htemplate, bind, Except.bind]
  | ok seeded =>
    cases hplane : seeded.fillControlPlane connection with
    | error error =>
      simp [ConnectionCall.advance, ConnectionCall.finish, htemplate, hplane, bind, Except.bind]
    | ok store =>
      simp [ConnectionCall.advance, ConnectionCall.finish, htemplate, hplane, bind, Except.bind]

/-- A caller has set a connection of a kind. -/
def HasSet (race : ConnectionRace ι) (caller : ι) (kind : ConnectionKind)
    (connection : Connection) : Prop :=
  (race.calls caller).HasSet (race.states caller) kind connection

/-! ## The invariant -/

/-- The invariant of a race. -/
structure Sound (race : ConnectionRace ι) : Prop where
  /-- The connections that are set have been set by callers. -/
  set : ∀ kind connection,
    race.store.get? kind = some connection ↔ ∃ caller, race.HasSet caller kind connection
  /-- No two callers have set a connection of the same kind. -/
  once : ∀ kind first second connection other, race.HasSet first kind connection →
    race.HasSet second kind other → first = second
  /-- Callers fail only if they come too late. -/
  late : ∀ caller error kind, race.states caller = .set (.error error) →
    (race.calls caller).needsUnset? = some kind → race.store.get? kind ≠ none

omit [DecidableEq ι] in
theorem sound_ofCalls (calls : ι → ConnectionCall) : (ofCalls calls).Sound := by
  have hnone : ∀ caller kind connection, ¬ (ofCalls calls).HasSet caller kind connection := by
    intro caller kind connection
    cases kind <;> simp [HasSet, ConnectionCall.HasSet, ofCalls]
  refine ⟨?_, ?_, ?_⟩
  · intro kind connection
    constructor
    · intro hset
      cases kind <;> cases hset
    · rintro ⟨caller, hset⟩
      exact absurd hset (hnone caller kind connection)
  · intro kind first second connection other hfirst
    exact absurd hfirst (hnone first kind connection)
  · rintro caller error kind ⟨⟩

omit [DecidableEq ι] in
/-- The control plane that is set is the template that is set. -/
theorem Sound.memberTemplate_of_controlPlane (h : race.Sound)
    (hset : race.store.get? .controlPlane = some connection) :
    race.store.get? .memberTemplate = some connection := by
  -- whoever set the one has set the other before
  obtain ⟨setter, hcall, hstate⟩ := (h.set .controlPlane connection).1 hset
  exact (h.set .memberTemplate connection).2 ⟨setter, hcall, Or.inr hstate⟩

omit [DecidableEq ι] in
/-- While a caller has set the template and not yet the control plane, nobody has set that. -/
theorem Sound.controlPlane_eq_none (h : race.Sound)
    (hcall : race.calls caller = .setControlPlane connection)
    (hstate : race.states caller = .seeded) : race.store.controlPlane? = none := by
  cases hset : race.store.controlPlane? with
  | none => rfl
  | some other =>
    -- whoever has set it has set the template too, and only this caller has
    obtain ⟨setter, hother, hdone⟩ := (h.set .controlPlane other).1 hset
    have heq : setter = caller :=
      h.once .memberTemplate setter caller other connection ⟨hother, Or.inr hdone⟩
        ⟨hcall, Or.inl hstate⟩
    rw [heq, hstate] at hdone
    cases hdone

/-- What a turn comes to for the caller whose turn it is. -/
theorem Sound.advance (h : race.Sound) (mover : ι) :
    ConnectionCall.Advance race.store (race.calls mover) (race.states mover)
      (((race.turn mover).states mover), (race.turn mover).store) := by
  have hadvance := ConnectionCall.advance_advance race.store (race.calls mover)
    (race.states mover) fun connection hcall hstate => h.controlPlane_eq_none hcall hstate
  simpa only [turn, Function.update_self] using hadvance

/-- In a turn nothing is set, or a connection that was not set is set by the caller whose turn it
is. -/
theorem Sound.turn_cases (h : race.Sound) (mover : ι) :
    ((race.turn mover).store = race.store ∧ ∀ caller kind connection,
      (race.turn mover).HasSet caller kind connection ↔ race.HasSet caller kind connection) ∨
    ∃ kind connection, race.store.get? kind = none ∧
      (∀ other, (race.turn mover).store.get? other =
        if other = kind then some connection else race.store.get? other) ∧
      ∀ caller other set, (race.turn mover).HasSet caller other set ↔
        race.HasSet caller other set ∨ caller = mover ∧ other = kind ∧ set = connection := by
  have hothers : ∀ caller, caller ≠ mover → ∀ kind connection,
      (race.turn mover).HasSet caller kind connection ↔ race.HasSet caller kind connection := by
    intro caller hcaller kind connection
    simp only [HasSet, turn, Function.update_of_ne hcaller]
  rcases (h.advance mover).keeps_or_sets with
    ⟨hstore, hhas⟩ | ⟨kind, connection, hunset, hlater, hhas⟩
  · refine Or.inl ⟨hstore, fun caller kind connection => ?_⟩
    by_cases hcaller : caller = mover
    · subst hcaller
      exact hhas kind connection
    · exact hothers caller hcaller kind connection
  · refine Or.inr ⟨kind, connection, hunset, hlater, fun caller other set => ?_⟩
    by_cases hcaller : caller = mover
    · subst hcaller
      rw [eq_self_iff_true, true_and]
      exact hhas other set
    · simp only [hothers caller hcaller, hcaller, false_and, or_false]

/-- A connection that is set stays. -/
theorem Sound.get?_turn (h : race.Sound) (mover : ι)
    (hset : race.store.get? kind = some connection) :
    (race.turn mover).store.get? kind = some connection := by
  rcases h.turn_cases mover with ⟨hstore, -⟩ | ⟨other, new, hunset, hlater, -⟩
  · rw [hstore, hset]
  · rw [hlater, if_neg ?_, hset]
    rintro rfl
    rw [hunset] at hset
    cases hset

/-- So does the fact that a caller has set it. -/
theorem Sound.hasSet_turn (h : race.Sound) (mover : ι) (hset : race.HasSet caller kind connection) :
    (race.turn mover).HasSet caller kind connection := by
  rcases h.turn_cases mover with ⟨-, hhas⟩ | ⟨other, new, -, -, hhas⟩
  · exact (hhas caller kind connection).2 hset
  · exact (hhas caller kind connection).2 (Or.inl hset)

/-- Every turn keeps the invariant. -/
theorem Sound.turn (h : race.Sound) (mover : ι) : (race.turn mover).Sound := by
  refine ⟨?_, ?_, ?_⟩
  · intro kind connection
    rcases h.turn_cases mover with ⟨hstore, hhas⟩ | ⟨fresh, new, hunset, hlater, hhas⟩
    · simp only [hstore, hhas, h.set]
    · simp only [hlater, hhas]
      split
      next hkind =>
        -- nobody had set a connection of that kind
        subst hkind
        have hnone : ∀ caller, ¬ race.HasSet caller kind connection := fun caller hset => by
          have hold := (h.set kind connection).2 ⟨caller, hset⟩
          rw [hunset] at hold
          cases hold
        simp [hnone, eq_comm]
      next hkind => simp [hkind, h.set]
  · intro kind first second connection other hfirst hsecond
    rcases h.turn_cases mover with ⟨-, hhas⟩ | ⟨fresh, new, hunset, -, hhas⟩
    · exact h.once kind first second connection other ((hhas _ _ _).1 hfirst)
        ((hhas _ _ _).1 hsecond)
    · -- of the kind that is set now nobody had set a connection
      have hnone : ∀ caller set, ¬ race.HasSet caller fresh set := fun caller set hset => by
        have hold := (h.set fresh set).2 ⟨caller, hset⟩
        rw [hunset] at hold
        cases hold
      rw [hhas] at hfirst hsecond
      by_cases hkind : kind = fresh
      · subst hkind
        have hfirst := hfirst.resolve_left (hnone first connection)
        have hsecond := hsecond.resolve_left (hnone second other)
        rw [hfirst.1, hsecond.1]
      · exact h.once kind first second connection other
          (hfirst.resolve_right fun heq => hkind heq.2.1)
          (hsecond.resolve_right fun heq => hkind heq.2.1)
  · intro caller error kind hfailed hneeds
    -- what was set when the caller failed is still set
    have hstays : race.store.get? kind ≠ none → (race.turn mover).store.get? kind ≠ none := by
      intro hset
      obtain ⟨connection, hset⟩ := Option.ne_none_iff_exists'.1 hset
      rw [h.get?_turn mover hset]
      exact Option.some_ne_none connection
    by_cases hcaller : caller = mover
    · subst hcaller
      exact hstays ((h.advance caller).ne_none_of_error hfailed hneeds
        (h.late caller error kind · hneeds))
    · refine hstays (h.late caller error kind ?_ hneeds)
      simpa only [ConnectionRace.turn, Function.update_of_ne hcaller] using hfailed

theorem Sound.run (h : race.Sound) (turns : List ι) : (race.run turns).Sound := by
  induction turns generalizing race with
  | nil => exact h
  | cons mover rest ih => exact ih (h.turn mover)

theorem Sound.get?_run (h : race.Sound) (turns : List ι)
    (hset : race.store.get? kind = some connection) :
    (race.run turns).store.get? kind = some connection := by
  induction turns generalizing race with
  | nil => exact hset
  | cons mover rest ih => exact ih (h.turn mover) (h.get?_turn mover hset)

theorem Sound.hasSet_run (h : race.Sound) (turns : List ι)
    (hset : race.HasSet caller kind connection) :
    (race.run turns).HasSet caller kind connection := by
  induction turns generalizing race with
  | nil => exact hset
  | cons mover rest ih => exact ih (h.turn mover) (h.hasSet_turn mover hset)

/-! ## Set at most once -/

/-- A caller that has set the template sets the control plane in its next turn. -/
theorem Sound.set_of_seeded (h : race.Sound)
    (hcall : race.calls caller = .setControlPlane connection)
    (hstate : race.states caller = .seeded) :
    (race.turn caller).states caller = .set (.ok ()) := by
  have hunset := h.controlPlane_eq_none hcall hstate
  simp only [ConnectionRace.turn, Function.update_self, hcall, hstate, ConnectionCall.advance,
    ConnectionStore.fillControlPlane, hunset, ConnectionCall.finish]

/-- A call that fails in the end sets nothing in its turns. -/
theorem Sound.store_turn_of_error (h : race.Sound) (turns : List ι) {error : ClientError}
    (hfailed : ((race.turn caller).run turns).states caller = .set (.error error)) :
    (race.turn caller).store = race.store := by
  rcases h.turn_cases caller with ⟨hstore, -⟩ | ⟨kind, connection, -, -, hhas⟩
  · exact hstore
  · -- what it sets now it would have set in the end
    have hset := (h.turn caller).hasSet_run turns
      ((hhas caller kind connection).2 (Or.inr ⟨rfl, rfl, rfl⟩))
    unfold HasSet at hset
    rw [hfailed] at hset
    exact absurd hset ConnectionCall.not_hasSet_error

/-- A call that has read a connection read it in one of its turns. -/
theorem exists_of_got {turns : List ι} {answer : Except ClientError Connection}
    (hcall : race.calls caller = .get kind) (hwaiting : race.states caller = .waiting)
    (hgot : (race.run turns).states caller = .got answer) :
    ∃ before after, before ++ caller :: after = turns ∧
      answer = (race.run before).store.get kind := by
  -- the last turn was that one, or the call had read the connection before
  induction turns using List.reverseRecOn with
  | nil =>
    rw [run_nil, hwaiting] at hgot
    cases hgot
  | append_singleton rest mover ih =>
    have hbefore : (race.run rest).states caller = .got answer →
        ∃ before after, before ++ caller :: after = rest ++ [mover] ∧
          answer = (race.run before).store.get kind := by
      intro hold
      obtain ⟨before, after, rfl, hanswer⟩ := ih hold
      exact ⟨before, after ++ [mover], by simp, hanswer⟩
    rw [run_append, run_cons, run_nil, turn] at hgot
    by_cases hmover : caller = mover
    · subst hmover
      simp only [Function.update_self, calls_run, hcall] at hgot
      cases hstate : (race.run rest).states caller with
      | waiting =>
        rw [hstate] at hgot
        exact ⟨rest, [], rfl, (CallState.got.inj hgot).symm⟩
      | seeded =>
        rw [hstate] at hgot
        cases hgot
      | set outcome =>
        rw [hstate] at hgot
        cases hgot
      | got earlier =>
        rw [hstate] at hgot
        exact hbefore (hstate.trans hgot)
    · simp only [Function.update_of_ne hmover] at hgot
      exact hbefore hgot

/-- What set at most once amounts to for the callers in a race. -/
structure SetOnce (start : ConnectionRace ι) (turns : List ι) : Prop where
  /-- At most one call succeeds in setting the connection to the API server. -/
  apiServer : ∀ first second connection other,
    start.calls first = .setApiServer connection → start.calls second = .setApiServer other →
    (start.run turns).states first = .set (.ok ()) →
    (start.run turns).states second = .set (.ok ()) → first = second
  /-- At most one call succeeds in setting the control plane. -/
  controlPlane : ∀ first second connection other,
    start.calls first = .setControlPlane connection →
    start.calls second = .setControlPlane other →
    (start.run turns).states first = .set (.ok ()) →
    (start.run turns).states second = .set (.ok ()) → first = second
  /-- Whenever the control plane can be read, the template can be read and is the same. -/
  agree : ∀ before after, before ++ after = turns → ∀ connection,
    (start.run before).store.controlPlane = .ok connection →
    (start.run before).store.memberTemplate = .ok connection
  /-- What has been read once is read ever after. -/
  stays : ∀ before between after, before ++ between ++ after = turns → ∀ kind connection,
    (start.run before).store.get kind = .ok connection →
    (start.run (before ++ between)).store.get kind = .ok connection
  /-- A call that reads yields what is set when it has its turn. -/
  reads : ∀ caller kind answer, start.calls caller = .get kind →
    (start.run turns).states caller = .got answer →
    ∃ before after, before ++ caller :: after = turns ∧
      answer = (start.run before).store.get kind
  /-- A call that fails has changed nothing in any of its turns. -/
  failed : ∀ before caller after error, before ++ caller :: after = turns →
    (start.run turns).states caller = .set (.error error) →
    (start.run (before ++ [caller])).store = (start.run before).store
  /-- It fails because another one has set what it should have set first. -/
  late : ∀ caller error kind, (start.run turns).states caller = .set (.error error) →
    (start.calls caller).needsUnset? = some kind →
    ∃ winner connection, winner ≠ caller ∧ (start.run turns).HasSet winner kind connection
  /-- A caller that has set the template sets the control plane in its next turn. -/
  second : ∀ before caller after connection, before ++ caller :: after = turns →
    start.calls caller = .setControlPlane connection →
    (start.run before).states caller = .seeded →
    (start.run (before ++ [caller])).states caller = .set (.ok ())
  /-- What a call has succeeded in setting is read. -/
  succeeded : ∀ caller kind connection, (start.run turns).HasSet caller kind connection →
    (start.run turns).store.get kind = .ok connection

/-- In every race that begins with an empty store the connections are set at most once. -/
theorem setOnce_run (calls : ι → ConnectionCall) (turns : List ι) :
    SetOnce (ofCalls calls) turns := by
  have hstart := sound_ofCalls calls
  have hend := hstart.run turns
  have hcalls : ((ofCalls calls).run turns).calls = calls := calls_run _ turns
  refine ⟨?_, ?_, ?_, ?_, ?_, ?_, ?_, ?_, ?_⟩
  · intro first second connection other hfirst hsecond hset hset'
    exact hend.once .apiServer first second connection other ⟨by rwa [hcalls], hset⟩
      ⟨by rwa [hcalls], hset'⟩
  · intro first second connection other hfirst hsecond hset hset'
    exact hend.once .controlPlane first second connection other ⟨by rwa [hcalls], hset⟩
      ⟨by rwa [hcalls], hset'⟩
  · intro before after hturns connection hread
    have hset : ((ofCalls calls).run before).store.get? .controlPlane = some connection :=
      ConnectionStore.get_eq_ok_iff.1 hread
    have hsame := (hstart.run before).memberTemplate_of_controlPlane hset
    exact ConnectionStore.get_eq_ok_iff.2 hsame
  · intro before between after hturns kind connection hread
    rw [ConnectionStore.get_eq_ok_iff] at hread ⊢
    rw [run_append]
    exact (hstart.run before).get?_run between hread
  · intro caller kind answer hcall hgot
    exact exists_of_got hcall rfl hgot
  · rintro before caller after error rfl hfailed
    rw [run_append, run_cons] at hfailed
    rw [run_append]
    exact (hstart.run before).store_turn_of_error after hfailed
  · intro caller error kind hfailed hneeds
    have hset := hend.late caller error kind hfailed (by rwa [hcalls])
    obtain ⟨connection, hset⟩ := Option.ne_none_iff_exists'.1 hset
    obtain ⟨winner, hwinner⟩ := (hend.set kind connection).1 hset
    refine ⟨winner, connection, ?_, hwinner⟩
    rintro rfl
    unfold HasSet at hwinner
    rw [hfailed] at hwinner
    exact ConnectionCall.not_hasSet_error hwinner
  · rintro before caller after connection rfl hcall hstate
    rw [run_append]
    exact (hstart.run before).set_of_seeded (by rwa [calls_run]) hstate
  · intro caller kind connection hset
    exact ConnectionStore.get_eq_ok_iff.2 ((hend.set kind connection).2 ⟨caller, hset⟩)

/-- Between the two steps of a caller the template is set and the control plane is not. -/
example (connection : Connection) :
    let race := (ofCalls fun _ : Unit => .setControlPlane connection).run [()]
    race.store.get? .memberTemplate = some connection ∧ race.store.get? .controlPlane = none :=
  ⟨rfl, rfl⟩

end ConnectionRace

end FleetDashboard
