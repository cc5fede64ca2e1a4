import FleetDashboard.Proofs.Access.PolicyRace

/-!
# Replacing the policies while they are asked

The policies in force are shared by all who replace them and all who ask for a decision. Still every
decision is that of one text as a whole, the last one that was accepted by the time: a call that
fails has changed nothing, and one that succeeds changes everything at once.

* `PolicyRace.run_alone`: a caller that is left alone makes its update as it is made in one go.
* `PolicyRace.run_rounds`: a listener that is left alone reloads the policies once for each trigger.
* `PolicyRace.DecidesByLast`, `PolicyRace.decidesByLast_run`: what it amounts to that policies are
  replaced as a whole, and that it holds of every race.
-/

namespace FleetDashboard

namespace PolicyRace

variable {π ι κ : Type} [DecidableEq ι] [DecidableEq κ] {language : PolicyLanguage π}
  {start : PolicyStore π} {race : PolicyRace π ι κ} {party : PolicyParty ι κ}

/-! ## Parties that are left alone -/

/-- Two steps of a party in a row make its whole update. -/
theorem advance_twice (language : PolicyLanguage π) (hwaiting : race.states party = .waiting) :
    let change := (race.callOf party).update race.file
    let after := (race.advance language party).advance language party
    after.store = (race.store.update language change).2 ∧
      after.states party = .done change (race.store.update language change).1 ∧
      after.completed = race.completed ++ [(party, change)] := by
  obtain ⟨hstate, hstore, hcompleted⟩ :=
    PolicyCall.advance_twice language race.file race.store (race.callOf party)
  have hcall : (race.advance language party).callOf party = race.callOf party := by
    cases party <;> rfl
  have hsecond : (race.advance language party).stepOf language party =
      (race.callOf party).advance language race.file (race.stepOf language party).store
        (race.stepOf language party).state := by
    rw [stepOf, hcall]
    simp [advance]
  have hfirst : race.stepOf language party =
      (race.callOf party).advance language race.file race.store .waiting := by
    rw [stepOf, hwaiting]
  rw [hfirst] at hsecond
  refine ⟨?_, ?_, ?_⟩
  · show ((race.advance language party).stepOf language party).store = _
    rw [hsecond]
    exact hstore
  · rw [states_advance, hsecond]
    exact hstate
  · show race.completed ++ (race.stepOf language party).completed.map (party, ·) ++
      ((race.advance language party).stepOf language party).completed.map (party, ·) = _
    rw [hsecond, hfirst, List.append_assoc, ← List.map_append, hcompleted]
    rfl

/-- A caller that takes its turns in a row makes its update as it is made in one go. -/
theorem run_alone {caller : ι} (hwaiting : race.states (.caller caller) = .waiting) :
    let change := (race.calls caller).update race.file
    let after := race.run language [.turn (.caller caller), .turn (.caller caller)]
    after.store = (race.store.update language change).2 ∧
      after.states (.caller caller) = .done change (race.store.update language change).1 ∧
      after.completed = race.completed ++ [(.caller caller, change)] :=
  advance_twice language hwaiting

/-- The events of a listener that is left alone: the file is written, and the listener is told of
it and takes its turns. -/
def round (listener : κ) (file : Option String) : List (PolicyEvent ι κ) :=
  [.write file, .signal listener .trigger, .turn (.listener listener), .turn (.listener listener),
    .turn (.listener listener)]

theorem turn_of_listening {listener : κ} (hphase : (race.listeners listener).phase = .listening) :
    race.turn language (.listener listener) =
      { race with
        listeners := Function.update race.listeners listener (race.listeners listener).listen
        states := Function.update race.states (.listener listener) .waiting } := by
  simp only [turn, hphase]

theorem turn_of_reloading {listener : κ} (hphase : (race.listeners listener).phase = .reloading) :
    race.turn language (.listener listener) =
      { race.advance language (.listener listener) with
        listeners := Function.update race.listeners listener
          { race.listeners listener with
            phase := if (race.stepOf language (.listener listener)).state.isDone then .listening
              else .reloading } } := by
  simp only [turn, hphase]

theorem phase_turn_of_isDone {listener : κ}
    (hphase : (race.listeners listener).phase = .reloading)
    (hdone : ((race.turn language (.listener listener)).states
      (.listener listener)).isDone = true) :
    ((race.turn language (.listener listener)).listeners listener).phase = .listening := by
  rw [turn_of_reloading hphase] at hdone ⊢
  simp only [states_advance] at hdone
  simp only [Function.update_self, hdone, if_true]

/-- A listener that has begun to reload the policies has reloaded them after two turns. -/
theorem turn_twice_of_reloading (language : PolicyLanguage π) {listener : κ}
    (hphase : (race.listeners listener).phase = .reloading)
    (hwaiting : race.states (.listener listener) = .waiting)
    (hreceived : (race.listeners listener).received = (race.listeners listener).sent)
    (hsenders : 0 < (race.listeners listener).senders) :
    let after := (race.turn language (.listener listener)).turn language (.listener listener)
    after.store = (race.store.update language (.reload race.file)).2 ∧
      (after.listeners listener).IsIdle := by
  obtain ⟨hstore, hstate, -⟩ := advance_twice language hwaiting
  change _ = (race.store.update language (.reload race.file)).2 at hstore
  obtain ⟨next, hnext⟩ : ∃ next, next = race.turn language (.listener listener) := ⟨_, rfl⟩
  have hturn := hnext.trans (turn_of_reloading hphase)
  have hstep : next.stepOf language (.listener listener) =
      (race.advance language (.listener listener)).stepOf language (.listener listener) := by
    rw [hturn]
    rfl
  rw [← hnext]
  cases hdone : (race.stepOf language (.listener listener)).state.isDone with
  | true =>
    -- its call has failed in the first turn, and in the second one there is nothing to do
    have hidle : (next.listeners listener).IsIdle := by
      rw [hturn]
      simp only [Function.update_self, hdone, if_true]
      exact ⟨rfl, hreceived, hsenders⟩
    have hkept : next.store = (race.store.update language (.reload race.file)).2 := by
      rw [← hstore, hturn]
      refine (PolicyCall.store_advance_of_isDone _ ?_).symm
      rwa [states_advance]
    simp only [turn_of_listening hidle.listening, Function.update_self,
      PolicyListener.listen_of_isIdle hidle]
    exact ⟨hkept, hidle⟩
  | false =>
    -- the policies are put in force in the second turn
    have hreloading : (next.listeners listener).phase = .reloading := by
      rw [hturn]
      simp [hdone]
    have hover : (next.stepOf language (.listener listener)).state.isDone = true := by
      rw [states_advance] at hstate
      rw [hstep, hstate]
      rfl
    have hmade : (next.advance language (.listener listener)).store =
        (race.store.update language (.reload race.file)).2 := by
      rw [← hstore]
      exact congrArg UpdateStep.store hstep
    simp only [turn_of_reloading hreloading, Function.update_self, hover, if_true]
    refine ⟨hmade, rfl, ?_, ?_⟩
    · rw [hturn]
      simpa only [Function.update_self] using hreceived
    · rw [hturn]
      simpa only [Function.update_self] using hsenders

theorem run_round (language : PolicyLanguage π) {listener : κ}
    (h : (race.listeners listener).IsIdle) (file : Option String) :
    let after := race.run language (round listener file)
    after.store = (race.store.update language (.reload file)).2 ∧
      (after.listeners listener).IsIdle := by
  -- the listener is told, and begins with its first turn
  obtain ⟨told, htold⟩ : ∃ told, told =
    race.run language [.write file, .signal listener .trigger, .turn (.listener listener)] :=
      ⟨_, rfl⟩
  have hlistener : told.listeners listener =
      { race.listeners listener with
        phase := .reloading
        sent := (race.listeners listener).sent + 1
        received := (race.listeners listener).received + 1 } := by
    simp [htold, step, turn, h.listening, PolicyListener.listen_trigger h]
  have hstate : told.states (.listener listener) = .waiting := by
    simp [htold, step, turn, h.listening]
  have hfile : told.file = file := by simp [htold, step, turn, h.listening]
  have hstore : told.store = race.store := by simp [htold, step, turn, h.listening]
  have hphase : (told.listeners listener).phase = .reloading := by rw [hlistener]
  have hreceived : (told.listeners listener).received = (told.listeners listener).sent := by
    rw [hlistener, h.received]
  have hsenders : 0 < (told.listeners listener).senders := by
    rw [hlistener]
    exact h.senders
  have hreload := turn_twice_of_reloading language hphase hstate hreceived hsenders
  rw [hstore, hfile, htold] at hreload
  exact hreload

/-- A listener that is left alone reloads the policies once for each trigger. -/
theorem run_rounds {listener : κ} (h : (race.listeners listener).IsIdle)
    (files : List (Option String)) :
    (race.run language (files.flatMap (round listener))).store =
      race.store.reloadOn language files := by
  induction files generalizing race with
  | nil => rfl
  | cons file rest ih =>
    obtain ⟨hstore, hidle⟩ := run_round language h file
    rw [List.flatMap_cons, run_append, ih hidle, hstore]
    rfl

/-! ## One text at a time -/

/-- A turn in which a call fails is its first one, and changes nothing. -/
theorem Sound.failed (h : Sound language start race) {change : PolicyUpdate} {error : ClientError}
    (hdone : (race.states party).isDone = false)
    (hfailed : (race.step language (.turn party)).states party = .done change (.error error)) :
    race.states party = .waiting ∧ (race.step language (.turn party)).store = race.store ∧
      PolicyStore.accepted? language start.fromFile change = none := by
  cases h.change (.turn party) with
  | keeps hstore hcompleted hstates =>
    rcases hstates party with hsame | ⟨-, hwaiting | ⟨policies, -, haccepted⟩⟩
    · rw [← hsame, hfailed] at hdone
      cases hdone
    · rw [hwaiting] at hfailed
      cases hfailed
    · rw [haccepted] at hfailed
      cases hfailed
  | completes mover made hevent hmover hmade hstates hstore hcompleted =>
    obtain rfl := PolicyEvent.turn.inj hevent
    rw [hstates, Function.update_self] at hfailed
    obtain ⟨rfl, houtcome⟩ := UpdateState.done.inj hfailed
    -- its update has failed, so its text was not accepted and the store was not touched
    rcases PolicyStore.update_cases language race.store made with
      ⟨-, hok⟩ | ⟨hnone, reason, hupdate⟩
    · rw [hok] at houtcome
      cases houtcome
    · rw [h.fromFile] at hnone
      refine ⟨?_, by rw [hstore, hupdate], hnone⟩
      -- a call whose text has been accepted does not fail
      rcases hmade with ⟨hwaiting, -⟩ | hread
      · exact hwaiting
      · have hisOf := h.states party
        cases hstate : race.states party with
        | waiting => rfl
        | accepted change policies =>
          rw [hstate, UpdateState.IsOf, ← PolicyStore.incoming_congr h.fromFile] at hisOf
          rw [hstate, UpdateState.change?, Option.some.injEq] at hread
          rw [← hread, PolicyStore.update_of_ok hisOf] at houtcome
          cases houtcome
        | done change outcome =>
          rw [hstate] at hdone
          cases hdone

/-- What it amounts to that the policies are replaced as a whole, for a race that begins before a
store with the policies of a text. -/
structure DecidesByLast (language : PolicyLanguage π) (first : String) (start : PolicyRace π ι κ)
    (events : List (PolicyEvent ι κ)) : Prop where
  /-- At all times decisions are made by the text that was accepted last. -/
  decides : ∀ before after, before ++ after = events → ∃ policies,
    language.parse (PolicyStore.textInForce language start.store.fromFile first
      (start.run language before).changes) = .ok policies ∧
    ∀ user cluster, (start.run language before).store.hasAccess language user cluster =
      language.evaluate policies user cluster
  /-- The policies change only as a call is over, and then by its whole update. -/
  whole : ∀ before event after, before ++ event :: after = events →
    Change language (start.run language before) event (start.run language (before ++ [event]))
  /-- What is reloaded is what the file holds at a turn of the party that reloads it. -/
  reads : ∀ party change, (party, change) ∈ (start.run language events).completed →
    start.ReadIn language events party change
  /-- A call succeeds if its text is accepted, and otherwise the configuration is invalid. -/
  outcome : ∀ before after, before ++ after = events → ∀ party change outcome,
    (start.run language before).states party = .done change outcome →
    ((PolicyStore.accepted? language start.store.fromFile change).isSome ∧ outcome = .ok ()) ∨
    PolicyStore.accepted? language start.store.fromFile change = none ∧
      ∃ reason, outcome = .error (.config reason)
  /-- A call that fails has changed nothing, and later decisions are made as without it. -/
  failed : ∀ before party after change error, before ++ .turn party :: after = events →
    ((start.run language before).states party).isDone = false →
    (start.run language (before ++ [.turn party])).states party = .done change (.error error) →
    (start.run language before).states party = .waiting ∧
    (start.run language (before ++ [.turn party])).store = (start.run language before).store ∧
    ∀ earlier later,
      PolicyStore.textInForce language start.store.fromFile first (earlier ++ change :: later) =
        PolicyStore.textInForce language start.store.fromFile first (earlier ++ later)
  /-- A listener goes on after each reload, whether it has failed or not. -/
  goesOn : ∀ before listener after, before ++ .turn (.listener listener) :: after = events →
    ((start.run language before).listeners listener).phase = .reloading →
    ((start.run language (before ++ [.turn (.listener listener)])).states
      (.listener listener)).isDone = true →
    ((start.run language (before ++ [.turn (.listener listener)])).listeners listener).phase =
      .listening
  /-- A listener reloads the policies once for each trigger that it receives. -/
  rounds : ∀ before after, before ++ after = events → ∀ listener,
    ((start.run language before).listeners listener).received ≤
      ((start.run language before).listeners listener).sent ∧
    ((start.run language before).listeners listener).received =
      (start.run language before).reloads listener +
        ((start.run language before).listeners listener).pending
  /-- It stops only when nobody is left who could tell it, and when it has reloaded them as often as
  it was told. -/
  stops : ∀ before after, before ++ after = events → ∀ listener,
    ((start.run language before).listeners listener).phase = .stopped →
    ((start.run language before).listeners listener).senders = 0 ∧
    (start.run language before).reloads listener =
      ((start.run language before).listeners listener).sent
  /-- And then it does stop. -/
  ends : ∀ before listener after, before ++ .turn (.listener listener) :: after = events →
    ((start.run language before).listeners listener).phase = .listening →
    ((start.run language before).listeners listener).senders = 0 →
    ((start.run language before).listeners listener).received =
      ((start.run language before).listeners listener).sent →
    ((start.run language (before ++ [.turn (.listener listener)])).listeners listener).phase =
      .stopped

/-- In every race that begins before a store with the policies of a text they are replaced as a
whole. -/
theorem decidesByLast_run {store : PolicyStore π} {text : String}
    (hbuilt : PolicyStore.ofText language text = .ok store ∨
      PolicyStore.ofFile language (some text) = .ok store)
    (file : Option String) (calls : ι → PolicyCall) (senders : κ → Nat)
    (events : List (PolicyEvent ι κ)) :
    DecidesByLast language text (ofStore store file calls senders) events := by
  have hsound : ∀ before, Sound language store
      ((ofStore store file calls senders : PolicyRace π ι κ).run language before) :=
    (sound_ofStore store file calls senders).run
  have hattends : ∀ before listener, Attends
      ((ofStore store file calls senders : PolicyRace π ι κ).run language before) listener :=
    fun before listener => (attends_ofStore store file calls senders listener).run before
  refine ⟨?_, ?_, ?_, ?_, ?_, ?_, ?_, ?_, ?_⟩
  · rintro before after -
    refine ⟨_, PolicyStore.parse_textInForce (PolicyStore.parse_of_built hbuilt) _, ?_⟩
    intro user cluster
    rw [PolicyStore.hasAccess, (hsound before).store]
  · rintro before event after -
    rw [run_append]
    exact (hsound before).change event
  · intro party change hchange
    exact (sound_ofStore store file calls senders).readIn_of_completed (fun _ => rfl) rfl hchange
  · rintro before after - party change outcome hdone
    have houtcome := (hsound before).states party
    rw [hdone] at houtcome
    rcases PolicyStore.update_cases language store change with
      ⟨hsome, hok⟩ | ⟨hnone, reason, hupdate⟩
    · exact Or.inl ⟨hsome, Eq.trans houtcome hok⟩
    · exact Or.inr ⟨hnone, reason, Eq.trans houtcome (congrArg Prod.fst hupdate)⟩
  · rintro before party after change error - hdone hfailed
    rw [run_append] at hfailed ⊢
    obtain ⟨hwaiting, hstore, hnone⟩ := (hsound before).failed hdone hfailed
    exact ⟨hwaiting, hstore, PolicyStore.textInForce_of_not_accepted hnone text⟩
  · rintro before listener after - hphase hdone
    rw [run_append] at hdone ⊢
    exact phase_turn_of_isDone hphase hdone
  · rintro before after - listener
    exact ⟨(hattends before listener).sound.received_le, (hattends before listener).reloads⟩
  · rintro before after - listener hphase
    obtain ⟨hsenders, hreceived⟩ := (hattends before listener).sound.stopped hphase
    refine ⟨hsenders, ?_⟩
    have hreloads := (hattends before listener).reloads
    rw [PolicyListener.pending, hphase] at hreloads
    exact (hreceived.symm.trans hreloads).symm
  · rintro before listener after - hphase hsenders hreceived
    rw [run_append, run_cons, run_nil, step, turn_of_listening hphase]
    simp only [Function.update_self, PolicyListener.listen_of_hungUp hreceived hsenders]

/-- A listener comes upon a file that is no policy, and decisions are made as before. -/
theorem decidesByLast_run_badReload :
    let text := "permit(principal == Dashboard::User::\"alice\", action, resource);"
    let store : PolicyStore (List Cedar.Policy) :=
      { active := (Cedar.parse? text).getD [], fromFile := true }
    let start : PolicyRace (List Cedar.Policy) Unit Unit :=
      ofStore store (some "permit(principal,") (fun _ => .reload) fun _ => 1
    let events := [.signal () .trigger, .turn (.listener ()), .turn (.listener ())]
    PolicyStore.ofFile cedar (some text) = .ok store ∧
      DecidesByLast cedar text start events ∧
      (start.run cedar events).reloads () = 1 ∧
      ((start.run cedar events).store.hasAccess cedar "alice" "member1").toOption = some true := by
  intro text store start events
  have hparse : (Cedar.parse? text).isSome = true := by decide +kernel
  have hbuilt : PolicyStore.ofFile cedar (some text) = .ok store := by
    obtain ⟨policies, hpolicies⟩ := Option.isSome_iff_exists.1 hparse
    simp [PolicyStore.ofFile, PolicyStore.readFile, PolicyStore.read, cedar, store, hpolicies]
  exact ⟨hbuilt, decidesByLast_run (Or.inr hbuilt) _ _ _ _, by decide +kernel, by decide +kernel⟩

end PolicyRace

end FleetDashboard
