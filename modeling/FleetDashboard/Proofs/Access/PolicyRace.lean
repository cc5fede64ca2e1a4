import Mathlib.Data.List.Induction
import Mathlib.Logic.Function.Basic
import FleetDashboard.Proofs.Access.PolicyCalls

/-!
# Races to replace the policies

Some callers replace the policies, or read their file again, and some listeners reload them for each
trigger. All of them share the policies in force, and nothing keeps them from taking their steps in
turns.

Two invariants hold throughout. The store is what the updates that are over have made of it, one
after the other (`PolicyRace.Sound`), which follows from what an event can come to for the policies
(`PolicyRace.change_step`). And a listener has reloaded the policies for each trigger that it has
received but the one that it is about (`PolicyRace.Attends`).

* `PolicyRace`: callers and listeners before one store.
* `PolicyRace.run`: what happens to them, in any order.
-/

namespace FleetDashboard

/-! ## Races -/

/-- Whoever can take a step: a caller or a listener. -/
inductive PolicyParty (ι κ : Type) where
  /-- A caller. -/
  | caller (caller : ι)
  /-- A listener, which calls anew for each trigger. -/
  | listener (listener : κ)
deriving DecidableEq

/-- Callers and listeners before one store. -/
structure PolicyRace (π ι κ : Type) where
  /-- The policies in force. -/
  store : PolicyStore π
  /-- The text in the file, if it can be read. -/
  file : Option String
  /-- What each caller asks. -/
  calls : ι → PolicyCall
  /-- How far the call of each party has come. -/
  states : PolicyParty ι κ → UpdateState π
  /-- The listeners. -/
  listeners : κ → PolicyListener
  /-- The updates that are over, the earliest first, each with its party. -/
  completed : List (PolicyParty ι κ × PolicyUpdate)

/-- What can happen next. -/
inductive PolicyEvent (ι κ : Type) where
  /-- A party takes its turn. -/
  | turn (party : PolicyParty ι κ)
  /-- The file is written, or can no longer be read. -/
  | write (file : Option String)
  /-- A listener is sent a signal. -/
  | signal (listener : κ) (signal : ListenerSignal)
deriving DecidableEq

namespace PolicyRace

variable {π ι κ : Type} [DecidableEq ι] [DecidableEq κ] {language : PolicyLanguage π}
  {start : PolicyStore π} {race : PolicyRace π ι κ} {party : PolicyParty ι κ}

/-- A race that begins before a store and a file. -/
def ofStore (store : PolicyStore π) (file : Option String) (calls : ι → PolicyCall)
    (senders : κ → Nat) : PolicyRace π ι κ :=
  { store, file, calls, states := fun _ => .waiting,
    listeners := fun listener => .ofSenders (senders listener), completed := [] }

/-- The call of a party. -/
def callOf (race : PolicyRace π ι κ) : PolicyParty ι κ → PolicyCall
  | .caller caller => race.calls caller
  | .listener _ => .reload

/-- The next step of a party in its call. -/
def stepOf (language : PolicyLanguage π) (race : PolicyRace π ι κ) (party : PolicyParty ι κ) :
    UpdateStep π :=
  (race.callOf party).advance language race.file race.store (race.states party)

/-- The race after a party's next step in its call. -/
def advance (language : PolicyLanguage π) (race : PolicyRace π ι κ) (party : PolicyParty ι κ) :
    PolicyRace π ι κ :=
  let step := race.stepOf language party
  { race with
    store := step.store
    states := Function.update race.states party step.state
    completed := race.completed ++ step.completed.map (party, ·) }

@[simp]
theorem states_advance (race : PolicyRace π ι κ) (party : PolicyParty ι κ) :
    (race.advance language party).states party = (race.stepOf language party).state :=
  Function.update_self _ _ _

/-- The race after a party's turn. A listener that is not about to reload listens. -/
def turn (language : PolicyLanguage π) (race : PolicyRace π ι κ) :
    PolicyParty ι κ → PolicyRace π ι κ
  | .caller caller => race.advance language (.caller caller)
  | .listener listener =>
    match (race.listeners listener).phase with
    | .listening =>
      { race with
        listeners := Function.update race.listeners listener (race.listeners listener).listen
        states := Function.update race.states (.listener listener) .waiting }
    | .reloading =>
      let phase : ListenerPhase :=
        if (race.stepOf language (.listener listener)).state.isDone then .listening else .reloading
      { race.advance language (.listener listener) with
        listeners := Function.update race.listeners listener
          { race.listeners listener with phase } }
    | .stopped => race

/-- The race after an event. -/
def step (language : PolicyLanguage π) (race : PolicyRace π ι κ) :
    PolicyEvent ι κ → PolicyRace π ι κ
  | .turn party => race.turn language party
  | .write file => { race with file }
  | .signal listener signal =>
    { race with
      listeners := Function.update race.listeners listener
        ((race.listeners listener).signal signal) }

/-- The race after some events, the earliest first. -/
def run (language : PolicyLanguage π) (race : PolicyRace π ι κ)
    (events : List (PolicyEvent ι κ)) : PolicyRace π ι κ :=
  events.foldl (step language) race

@[simp]
theorem run_nil (race : PolicyRace π ι κ) : race.run language [] = race := rfl

@[simp]
theorem run_cons (race : PolicyRace π ι κ) (event : PolicyEvent ι κ)
    (rest : List (PolicyEvent ι κ)) :
    race.run language (event :: rest) = (race.step language event).run language rest := rfl

theorem run_append (race : PolicyRace π ι κ) (before after : List (PolicyEvent ι κ)) :
    race.run language (before ++ after) = (race.run language before).run language after :=
  List.foldl_append

@[simp]
theorem calls_step (race : PolicyRace π ι κ) (event : PolicyEvent ι κ) :
    (race.step language event).calls = race.calls := by
  cases event with
  | turn party =>
    cases party with
    | caller caller => rfl
    | listener listener =>
      simp only [step, turn]
      split <;> rfl
  | write file => rfl
  | signal listener signal => rfl

@[simp]
theorem calls_run (race : PolicyRace π ι κ) (events : List (PolicyEvent ι κ)) :
    (race.run language events).calls = race.calls := by
  induction events generalizing race with
  | nil => rfl
  | cons event rest ih => exact (ih _).trans (race.calls_step event)

@[simp]
theorem callOf_run (race : PolicyRace π ι κ) (events : List (PolicyEvent ι κ))
    (party : PolicyParty ι κ) :
    (race.run language events).callOf party = race.callOf party := by
  cases party <;> simp [callOf]

/-! ## What becomes of the policies -/

/-- All that an event can come to for the policies. -/
inductive Change (language : PolicyLanguage π) (race : PolicyRace π ι κ)
    (event : PolicyEvent ι κ) (later : PolicyRace π ι κ) : Prop
  /-- They stay as they are, and no update is over. A party may have had its text accepted, or be
  about to begin. -/
  | keeps (hstore : later.store = race.store) (hcompleted : later.completed = race.completed)
      (hstates : ∀ party, later.states party = race.states party ∨ event = .turn party ∧
        (later.states party = .waiting ∨ ∃ policies,
          race.store.incoming language ((race.callOf party).update race.file) = .ok policies ∧
          later.states party = .accepted ((race.callOf party).update race.file) policies))
  /-- A party's call is over with its turn, and has made its update as a whole. -/
  | completes (party : PolicyParty ι κ) (change : PolicyUpdate) (hevent : event = .turn party)
      (hdone : (race.states party).isDone = false)
      (hchange : race.states party = .waiting ∧ change = (race.callOf party).update race.file ∨
        (race.states party).change? = some change)
      (hstates : later.states = Function.update race.states party
        (.done change (race.store.update language change).1))
      (hstore : later.store = (race.store.update language change).2)
      (hcompleted : later.completed = race.completed ++ [(party, change)])

theorem change_advance (h : (race.states party).IsOf language race.store) :
    Change language race (.turn party) (race.advance language party) := by
  have hadvance := PolicyCall.advance_advance race.file (race.callOf party) h
  have hothers : ∀ state other, other ≠ party →
      Function.update race.states party state other = race.states other :=
    fun state other hother => Function.update_of_ne hother _ _
  unfold advance stepOf
  -- what matters of the step is what it can come to, not how it is computed
  generalize (race.callOf party).advance language race.file race.store (race.states party) = step
    at hadvance ⊢
  cases hadvance with
  | idle hdone =>
    exact .keeps rfl (List.append_nil _) fun other => Or.inl (by simp)
  | accepts policies hwaiting hincoming =>
    refine .keeps rfl (List.append_nil _) fun other => ?_
    by_cases hother : other = party
    · subst hother
      exact Or.inr ⟨rfl, Or.inr ⟨policies, hincoming, Function.update_self _ _ _⟩⟩
    · exact Or.inl (hothers _ other hother)
  | completes change hdone hchange => exact .completes party change rfl hdone hchange rfl rfl rfl

/-- What an event comes to for the policies does not depend on the listeners. -/
theorem Change.congr {event : PolicyEvent ι κ} {later other : PolicyRace π ι κ}
    (h : Change language race event later) (hstore : other.store = later.store)
    (hstates : other.states = later.states) (hcompleted : other.completed = later.completed) :
    Change language race event other := by
  cases h with
  | keeps hstore' hcompleted' hstates' =>
    exact .keeps (hstore.trans hstore') (hcompleted.trans hcompleted') (hstates ▸ hstates')
  | completes party change hevent hdone hchange hstates' hstore' hcompleted' =>
    exact .completes party change hevent hdone hchange (hstates.trans hstates')
      (hstore.trans hstore') (hcompleted.trans hcompleted')

theorem change_step (h : ∀ party, (race.states party).IsOf language race.store)
    (event : PolicyEvent ι κ) : Change language race event (race.step language event) := by
  cases event with
  | turn party =>
    cases party with
    | caller caller => exact change_advance (h (.caller caller))
    | listener listener =>
      simp only [step, turn]
      split
      next =>
        -- it is about to call anew, and what came of its last call is of no account any more
        refine .keeps rfl rfl fun other => ?_
        by_cases hother : other = .listener listener
        · subst hother
          exact Or.inr ⟨rfl, Or.inl (Function.update_self _ _ _)⟩
        · exact Or.inl (Function.update_of_ne hother _ _)
      next => exact (change_advance (h (.listener listener))).congr rfl rfl rfl
      next => exact .keeps rfl rfl fun _ => Or.inl rfl
  | write file => exact .keeps rfl rfl fun _ => Or.inl rfl
  | signal listener signal => exact .keeps rfl rfl fun _ => Or.inl rfl

/-- The updates that are over, the earliest first. -/
def changes (race : PolicyRace π ι κ) : List PolicyUpdate :=
  race.completed.map Prod.snd

/-- The invariant of a race that began before a store. -/
structure Sound (language : PolicyLanguage π) (start : PolicyStore π) (race : PolicyRace π ι κ) :
    Prop where
  /-- The store is what the updates that are over have made of it. -/
  store : race.store = start.updateAll language race.changes
  /-- What has come of the calls is what their updates come to. -/
  states : ∀ party, (race.states party).IsOf language start

omit [DecidableEq ι] [DecidableEq κ] in
theorem sound_ofStore (store : PolicyStore π) (file : Option String) (calls : ι → PolicyCall)
    (senders : κ → Nat) : Sound language store (ofStore store file calls senders) :=
  ⟨rfl, fun _ => trivial⟩

omit [DecidableEq ι] [DecidableEq κ] in
theorem Sound.fromFile (h : Sound language start race) :
    race.store.fromFile = start.fromFile := by
  rw [h.store, PolicyStore.fromFile_updateAll]

theorem Sound.change (h : Sound language start race) (event : PolicyEvent ι κ) :
    Change language race event (race.step language event) :=
  change_step (fun party => (UpdateState.isOf_congr h.fromFile _).2 (h.states party)) event

/-- Every event keeps the invariant. -/
theorem Sound.step (h : Sound language start race) (event : PolicyEvent ι κ) :
    Sound language start (race.step language event) := by
  cases h.change event with
  | keeps hstore hcompleted hstates =>
    refine ⟨by rw [hstore, h.store, changes, changes, hcompleted], fun party => ?_⟩
    rcases hstates party with hsame | ⟨-, hwaiting | ⟨policies, hincoming, haccepted⟩⟩
    · rw [hsame]
      exact h.states party
    · rw [hwaiting]
      trivial
    · rw [haccepted, ← UpdateState.isOf_congr h.fromFile]
      exact hincoming
  | completes party change hevent hdone hchange hstates hstore hcompleted =>
    refine ⟨?_, fun other => ?_⟩
    · -- one more update is over, and it was made of the store as the others had left it
      rw [hstore, changes, hcompleted, List.map_append, PolicyStore.updateAll_append, ← changes,
        ← h.store]
      rfl
    · rw [hstates]
      by_cases hother : other = party
      · subst hother
        rw [Function.update_self, ← UpdateState.isOf_congr h.fromFile]
        rfl
      · rw [Function.update_of_ne hother]
        exact h.states other

theorem Sound.run (h : Sound language start race) (events : List (PolicyEvent ι κ)) :
    Sound language start (race.run language events) := by
  induction events generalizing race with
  | nil => exact h
  | cons event rest ih => exact ih (h.step event)

/-! ## Where updates come from -/

/-- An update of a party is that of the file at one of its turns. -/
def ReadIn (language : PolicyLanguage π) (race : PolicyRace π ι κ)
    (events : List (PolicyEvent ι κ)) (party : PolicyParty ι κ) (change : PolicyUpdate) : Prop :=
  ∃ before after, before ++ .turn party :: after = events ∧
    change = (race.callOf party).update (race.run language before).file

theorem ReadIn.append {events : List (PolicyEvent ι κ)} {change : PolicyUpdate}
    (h : race.ReadIn language events party change) (event : PolicyEvent ι κ) :
    race.ReadIn language (events ++ [event]) party change := by
  obtain ⟨before, after, rfl, hupdate⟩ := h
  exact ⟨before, after ++ [event], by simp, hupdate⟩

theorem readIn_turn (race : PolicyRace π ι κ) (events : List (PolicyEvent ι κ))
    (party : PolicyParty ι κ) :
    race.ReadIn language (events ++ [.turn party]) party
      (((race.run language events).callOf party).update (race.run language events).file) :=
  ⟨events, [], rfl, by rw [callOf_run]⟩

/-- The update that a call makes has been read in one of its turns. -/
theorem Sound.readIn_of_change? (h : Sound language start race)
    (hwaiting : ∀ party, race.states party = .waiting) {events : List (PolicyEvent ι κ)}
    {change : PolicyUpdate}
    (hchange : ((race.run language events).states party).change? = some change) :
    race.ReadIn language events party change := by
  -- the last event was that turn, or the text had been read before
  induction events using List.reverseRecOn with
  | nil =>
    rw [run_nil, hwaiting party] at hchange
    cases hchange
  | append_singleton rest event ih =>
    rw [run_append, run_cons, run_nil] at hchange
    cases (h.run rest).change event with
    | keeps hstore hcompleted hstates =>
      rcases hstates party with hsame | ⟨hevent, hagain | ⟨policies, -, haccepted⟩⟩
      · exact (ih (hsame ▸ hchange)).append event
      · rw [hagain] at hchange
        cases hchange
      · rw [haccepted, UpdateState.change?, Option.some.injEq] at hchange
        rw [hevent, ← hchange]
        exact race.readIn_turn rest party
    | completes mover made hevent hdone hmade hstates hstore hcompleted =>
      rw [hstates] at hchange
      by_cases hmover : party = mover
      · subst hmover
        rw [Function.update_self, UpdateState.change?, Option.some.injEq] at hchange
        subst hchange
        -- a call that fails has read its text in its only turn, any other one in an earlier turn
        rcases hmade with ⟨-, hupdate⟩ | hold
        · rw [hevent, hupdate]
          exact race.readIn_turn rest party
        · exact (ih hold).append event
      · rw [Function.update_of_ne hmover] at hchange
        exact (ih hchange).append event

/-- So have all updates that are over. -/
theorem Sound.readIn_of_completed (h : Sound language start race)
    (hwaiting : ∀ party, race.states party = .waiting) (hnone : race.completed = [])
    {events : List (PolicyEvent ι κ)} {change : PolicyUpdate}
    (hchange : (party, change) ∈ (race.run language events).completed) :
    race.ReadIn language events party change := by
  induction events using List.reverseRecOn with
  | nil =>
    rw [run_nil, hnone] at hchange
    cases hchange
  | append_singleton rest event ih =>
    rw [run_append, run_cons, run_nil] at hchange
    cases (h.run rest).change event with
    | keeps hstore hcompleted hstates => exact (ih (hcompleted ▸ hchange)).append event
    | completes mover made hevent hdone hmade hstates hstore hcompleted =>
      rw [hcompleted, List.mem_append, List.mem_singleton] at hchange
      rcases hchange with hold | hnew
      · exact (ih hold).append event
      · -- the call that is over with the last event has made this update
        obtain ⟨rfl, rfl⟩ := Prod.mk.inj hnew
        refine h.readIn_of_change? hwaiting ?_
        rw [run_append, run_cons, run_nil, hstates, Function.update_self]
        rfl

/-! ## What becomes of the listeners -/

/-- How often a listener has reloaded the policies. -/
def reloads (race : PolicyRace π ι κ) (listener : κ) : Nat :=
  race.completed.countP fun entry => entry.1 = .listener listener

/-- The invariant of a listener in a race. -/
structure Attends (race : PolicyRace π ι κ) (listener : κ) : Prop where
  /-- What it has received has been sent, and it does not stop too early. -/
  sound : (race.listeners listener).Sound
  /-- It has reloaded the policies for each trigger but the one that it is about. -/
  reloads : (race.listeners listener).received =
    race.reloads listener + (race.listeners listener).pending
  /-- While it reloads them its call is not over. -/
  pending : (race.listeners listener).phase = .reloading →
    (race.states (.listener listener)).isDone = false

theorem attends_ofStore (store : PolicyStore π) (file : Option String) (calls : ι → PolicyCall)
    (senders : κ → Nat) (listener : κ) : (ofStore store file calls senders).Attends listener :=
  ⟨PolicyListener.sound_ofSenders _, rfl, fun _ => rfl⟩

theorem reloads_advance (language : PolicyLanguage π) (race : PolicyRace π ι κ)
    (party : PolicyParty ι κ) (listener : κ) :
    (race.advance language party).reloads listener = race.reloads listener +
      if party = .listener listener then (race.stepOf language party).completed.length else 0 := by
  unfold reloads advance
  rw [List.countP_append, List.countP_map]
  split
  next hparty => simp [hparty, Function.comp_def]
  next hparty => simp [hparty, Function.comp_def]

/-- The invariant is about what the listener has done and what it does. -/
theorem Attends.congr {listener : κ} {later : PolicyRace π ι κ} (h : race.Attends listener)
    (hlistener : later.listeners listener = race.listeners listener)
    (hreloads : later.reloads listener = race.reloads listener)
    (hstate : later.states (.listener listener) = race.states (.listener listener)) :
    later.Attends listener := by
  refine ⟨?_, ?_, ?_⟩
  · rw [hlistener]
    exact h.sound
  · rw [hlistener, hreloads]
    exact h.reloads
  · rw [hlistener, hstate]
    exact h.pending

/-- The calls of others do not matter to a listener. -/
theorem Attends.advance {listener : κ} (h : race.Attends listener)
    (hparty : party ≠ .listener listener) : (race.advance language party).Attends listener := by
  refine h.congr rfl ?_ (Function.update_of_ne hparty.symm _ _)
  rw [reloads_advance, if_neg hparty, Nat.add_zero]

/-- Every turn of a listener keeps its invariant. -/
theorem Attends.turn {listener : κ} (h : race.Attends listener) :
    (race.turn language (.listener listener)).Attends listener := by
  simp only [PolicyRace.turn]
  split
  next hphase =>
    -- if a trigger has come in, it is received and the reload for it begins
    refine ⟨?_, ?_, fun _ => ?_⟩
    · simpa only [Function.update_self] using h.sound.listen
    · have hreceived := PolicyListener.received_listen hphase
      have hreloads := h.reloads
      rw [PolicyListener.pending, hphase] at hreloads
      simp only [Function.update_self]
      rw [hreceived, hreloads]
      rfl
    · simp [UpdateState.isDone]
  next hphase =>
    -- the reload that it was about is over just if its call is over with the step
    have hcompleted : (race.stepOf language (.listener listener)).completed.length =
        if (race.stepOf language (.listener listener)).state.isDone then 1 else 0 :=
      PolicyCall.length_completed_advance _ (h.pending hphase)
    have hadvance := reloads_advance language race (.listener listener) listener
    have hreloads := h.reloads
    rw [PolicyListener.pending, if_pos hphase] at hreloads
    rw [if_pos rfl, hcompleted] at hadvance
    refine ⟨⟨?_, ?_⟩, ?_, fun hagain => ?_⟩
    · simpa only [Function.update_self] using h.sound.received_le
    · simp only [Function.update_self]
      split <;> rintro ⟨⟩
    · simp only [Function.update_self, PolicyListener.pending]
      show _ = (race.advance language (.listener listener)).reloads listener + _
      rw [hreloads, hadvance]
      cases (race.stepOf language (.listener listener)).state.isDone <;> rfl
    · simp only [Function.update_self] at hagain
      show (Function.update race.states _ _ _).isDone = false
      rw [Function.update_self]
      split at hagain
      next => cases hagain
      next hstep => exact eq_false_of_ne_true hstep
  next => exact h

/-- Every event keeps the invariant of every listener. -/
theorem Attends.step {listener : κ} (h : race.Attends listener) (event : PolicyEvent ι κ) :
    (race.step language event).Attends listener := by
  cases event with
  | turn party =>
    by_cases hparty : party = .listener listener
    · subst hparty
      exact h.turn
    · cases party with
      | caller caller => exact h.advance hparty
      | listener mover =>
        have hmover : listener ≠ mover := fun heq => hparty (heq ▸ rfl)
        simp only [PolicyRace.step, PolicyRace.turn]
        split
        next => exact h.congr (Function.update_of_ne hmover _ _) rfl (by simp [hmover])
        next => exact (h.advance hparty).congr (Function.update_of_ne hmover _ _) rfl rfl
        next => exact h
  | write file => exact ⟨h.sound, h.reloads, h.pending⟩
  | signal mover signal =>
    by_cases hmover : listener = mover
    · subst hmover
      refine ⟨?_, ?_, fun hphase => ?_⟩
      · simpa only [PolicyRace.step, Function.update_self] using h.sound.signal signal
      · simp only [PolicyRace.step, Function.update_self, PolicyListener.received_signal,
          PolicyListener.pending, PolicyListener.phase_signal]
        exact h.reloads
      · simp only [PolicyRace.step, Function.update_self, PolicyListener.phase_signal] at hphase
        exact h.pending hphase
    · exact h.congr (Function.update_of_ne hmover _ _) rfl rfl

theorem Attends.run {listener : κ} (h : race.Attends listener) (events : List (PolicyEvent ι κ)) :
    (race.run language events).Attends listener := by
  induction events generalizing race with
  | nil => exact h
  | cons event rest ih => exact ih (h.step event)

end PolicyRace

end FleetDashboard
