import FleetDashboard.Proofs.Access.PolicyUpdates

/-!
# Calls that replace the policies

A call that replaces the policies takes two steps: it reads a text, and it puts the policies of that
text in force. In each of them the policies stay as they are, or the call is over and has made its
whole update, because a call that cannot go through with its text fails before it has touched
anything.

A listener reloads the policies whenever it is told to, until nobody is left who could tell it.

* `PolicyCall.advance`: one step of a call; `PolicyCall.advance_advance`: all that it can come to.
* `PolicyCall.advance_twice`: two steps in a row make the whole update.
* `PolicyListener`: what a listener has been told; `PolicyListener.Sound`: what it never does.
-/

namespace FleetDashboard

/-! ## Calls -/

/-- What is asked of a policy store. -/
inductive PolicyCall where
  /-- To replace the policies by those of a text. -/
  | replace (text : String)
  /-- To read the file again. -/
  | reload
deriving DecidableEq

/-- What a call comes to when the file holds a text or cannot be read. -/
def PolicyCall.update (file : Option String) : PolicyCall → PolicyUpdate
  | .replace text => .replace text
  | .reload => .reload file

/-- How far a call has come. -/
inductive UpdateState (π : Type) where
  /-- It has not begun. -/
  | waiting
  /-- Its text has been accepted, and the policies are put in force next. -/
  | accepted (change : PolicyUpdate) (policies : π)
  /-- It is over. -/
  | done (change : PolicyUpdate) (outcome : Except ClientError Unit)

namespace UpdateState

variable {π : Type} {language : PolicyLanguage π} {store other : PolicyStore π}

/-- The update that a call makes, once it has read its text. -/
def change? : UpdateState π → Option PolicyUpdate
  | .waiting => none
  | .accepted change _ => some change
  | .done change _ => some change

/-- The call is over. -/
def isDone : UpdateState π → Bool
  | .done _ _ => true
  | _ => false

/-- What has come of a call so far is what its update comes to. -/
def IsOf (language : PolicyLanguage π) (store : PolicyStore π) : UpdateState π → Prop
  | .waiting => True
  | .accepted change policies => store.incoming language change = .ok policies
  | .done change outcome => outcome = (store.update language change).1

/-- That does not depend on the policies in force. -/
theorem isOf_congr (h : other.fromFile = store.fromFile) (state : UpdateState π) :
    state.IsOf language other ↔ state.IsOf language store := by
  cases state with
  | waiting => exact Iff.rfl
  | accepted change policies => rw [IsOf, IsOf, PolicyStore.incoming_congr h]
  | done change outcome => rw [IsOf, IsOf, PolicyStore.fst_update_congr h]

end UpdateState

/-- What a step of a call comes to. -/
structure UpdateStep (π : Type) where
  /-- How far the call has come. -/
  state : UpdateState π
  /-- The store afterwards. -/
  store : PolicyStore π
  /-- The update that is over with the step, if one is. -/
  completed : List PolicyUpdate

namespace PolicyCall

variable {π : Type} {language : PolicyLanguage π} {store : PolicyStore π} {file : Option String}
  {call : PolicyCall} {state : UpdateState π}

/-- The next step of a call. One that is over does nothing. -/
def advance (language : PolicyLanguage π) (file : Option String) (store : PolicyStore π)
    (call : PolicyCall) : UpdateState π → UpdateStep π
  | .waiting =>
    match store.incoming language (call.update file) with
    | .ok policies => ⟨.accepted (call.update file) policies, store, []⟩
    | .error error => ⟨.done (call.update file) (.error error), store, [call.update file]⟩
  | .accepted change policies =>
    ⟨.done change (.ok ()), { store with active := policies }, [change]⟩
  | .done change outcome => ⟨.done change outcome, store, []⟩

/-- All that a step can come to. -/
inductive Advance (language : PolicyLanguage π) (file : Option String) (store : PolicyStore π)
    (call : PolicyCall) (state : UpdateState π) : UpdateStep π → Prop
  /-- The call is over. -/
  | idle (hdone : state.isDone = true) : Advance language file store call state ⟨state, store, []⟩
  /-- The text is accepted, and nothing has changed yet. -/
  | accepts (policies : π) (hwaiting : state = .waiting)
      (hincoming : store.incoming language (call.update file) = .ok policies) :
      Advance language file store call state ⟨.accepted (call.update file) policies, store, []⟩
  /-- The update is made as a whole. -/
  | completes (change : PolicyUpdate) (hdone : state.isDone = false)
      (hchange : state = .waiting ∧ change = call.update file ∨ state.change? = some change) :
      Advance language file store call state
        ⟨.done change (store.update language change).1, (store.update language change).2, [change]⟩

theorem advance_advance (file : Option String) (call : PolicyCall)
    (h : state.IsOf language store) :
    Advance language file store call state (call.advance language file store state) := by
  cases state with
  | waiting =>
    unfold advance
    cases hincoming : store.incoming language (call.update file) with
    | ok policies => exact .accepts policies rfl hincoming
    | error error =>
      -- an update that fails leaves the store as it is, so it is made as a whole here too
      have hcompletes : Advance language file store call .waiting
          ⟨.done (call.update file) (store.update language (call.update file)).1,
            (store.update language (call.update file)).2, [call.update file]⟩ :=
        .completes _ rfl (Or.inl ⟨rfl, rfl⟩)
      rwa [PolicyStore.update_of_error hincoming] at hcompletes
  | accepted change policies =>
    have hcompletes : Advance language file store call (.accepted change policies)
        ⟨.done change (store.update language change).1, (store.update language change).2,
          [change]⟩ := .completes _ rfl (Or.inr rfl)
    rwa [PolicyStore.update_of_ok h] at hcompletes
  | done change outcome => exact .idle rfl

/-- An update is over with the step that the call is over with. -/
theorem length_completed_advance (call : PolicyCall) (hdone : state.isDone = false) :
    (call.advance language file store state).completed.length =
      if (call.advance language file store state).state.isDone then 1 else 0 := by
  cases state with
  | waiting =>
    unfold advance
    cases store.incoming language (call.update file) <;> rfl
  | accepted change policies => rfl
  | done change outcome => cases hdone

theorem store_advance_of_isDone (call : PolicyCall) (hdone : state.isDone = true) :
    (call.advance language file store state).store = store := by
  cases state with
  | waiting => cases hdone
  | accepted change policies => cases hdone
  | done change outcome => rfl

/-- Two steps in a row make the whole update. -/
theorem advance_twice (language : PolicyLanguage π) (file : Option String) (store : PolicyStore π)
    (call : PolicyCall) :
    let change := call.update file
    let first := call.advance language file store .waiting
    let second := call.advance language file first.store first.state
    second.state = .done change (store.update language change).1 ∧
      second.store = (store.update language change).2 ∧
      first.completed ++ second.completed = [change] := by
  cases hincoming : store.incoming language (call.update file) with
  | ok policies => simp [advance, hincoming, PolicyStore.update_of_ok]
  | error error => simp [advance, hincoming, PolicyStore.update_of_error]

end PolicyCall

/-! ## Listeners -/

/-- What a listener does. -/
inductive ListenerPhase where
  /-- It waits to be told. -/
  | listening
  /-- It reloads the policies. -/
  | reloading
  /-- It has stopped. -/
  | stopped
deriving DecidableEq

/-- One that reloads the policies whenever it is told to. How many triggers can be on their way to
it at a time is not limited. -/
structure PolicyListener where
  /-- What it does. -/
  phase : ListenerPhase
  /-- How many could still tell it to reload. -/
  senders : Nat
  /-- How often it has been told. -/
  sent : Nat
  /-- How many of these triggers it has received. -/
  received : Nat

/-- What can happen on the other side of a listener. -/
inductive ListenerSignal where
  /-- It is told to reload. -/
  | trigger
  /-- One more can tell it. -/
  | share
  /-- One of those who could tell it is gone. -/
  | hangUp
deriving DecidableEq

namespace PolicyListener

variable {listener : PolicyListener}

/-- A listener that nobody has told anything. -/
def ofSenders (senders : Nat) : PolicyListener :=
  { phase := .listening, senders, sent := 0, received := 0 }

/-- The reloads that a listener is about. -/
def pending (listener : PolicyListener) : Nat :=
  if listener.phase = .reloading then 1 else 0

/-- A listener after a signal. Only those who are left can tell it, or let others tell it too. -/
def signal (listener : PolicyListener) : ListenerSignal → PolicyListener
  | .trigger =>
    if 0 < listener.senders then { listener with sent := listener.sent + 1 } else listener
  | .share =>
    if 0 < listener.senders then { listener with senders := listener.senders + 1 } else listener
  | .hangUp => { listener with senders := listener.senders - 1 }

/-- A listener after it has listened. It begins to reload if a trigger has come in, and if none has
it goes on as long as anybody is left who could tell it. -/
def listen (listener : PolicyListener) : PolicyListener :=
  if listener.received < listener.sent then
    { listener with phase := .reloading, received := listener.received + 1 }
  else if listener.senders = 0 then { listener with phase := .stopped }
  else listener

/-- A listener waits to be told, and somebody is left who could tell it. -/
structure IsIdle (listener : PolicyListener) : Prop where
  listening : listener.phase = .listening
  received : listener.received = listener.sent
  senders : 0 < listener.senders

theorem listen_of_isIdle (h : listener.IsIdle) : listener.listen = listener := by
  rw [listen, if_neg (Nat.not_lt_of_le (Nat.le_of_eq h.received.symm)),
    if_neg (Nat.ne_of_gt h.senders)]

/-- A listener stops when everybody has hung up. -/
theorem listen_of_hungUp (hreceived : listener.received = listener.sent)
    (hsenders : listener.senders = 0) : listener.listen = { listener with phase := .stopped } := by
  rw [listen, if_neg (Nat.not_lt_of_le (Nat.le_of_eq hreceived.symm)), if_pos hsenders]

theorem listen_trigger (h : listener.IsIdle) :
    (listener.signal .trigger).listen =
      { listener with
        phase := .reloading
        sent := listener.sent + 1
        received := listener.received + 1 } := by
  rw [signal, if_pos h.senders, listen]
  exact if_pos (Nat.lt_succ_of_le (Nat.le_of_eq h.received))

/-- The invariant of a listener. -/
structure Sound (listener : PolicyListener) : Prop where
  /-- It has received only what has been sent. -/
  received_le : listener.received ≤ listener.sent
  /-- It has stopped only if nobody is left who could tell it, and nothing is on its way. -/
  stopped : listener.phase = .stopped → listener.senders = 0 ∧ listener.received = listener.sent

theorem sound_ofSenders (senders : Nat) : (ofSenders senders).Sound :=
  ⟨Nat.le_refl 0, by rintro ⟨⟩⟩

@[simp]
theorem phase_signal (listener : PolicyListener) (signal : ListenerSignal) :
    (listener.signal signal).phase = listener.phase := by
  cases signal <;> simp only [PolicyListener.signal] <;> split <;> rfl

@[simp]
theorem received_signal (listener : PolicyListener) (signal : ListenerSignal) :
    (listener.signal signal).received = listener.received := by
  cases signal <;> simp only [PolicyListener.signal] <;> split <;> rfl

/-- Nobody is left to tell a listener that has stopped. -/
theorem Sound.signal (h : listener.Sound) (signal : ListenerSignal) :
    (listener.signal signal).Sound := by
  cases signal with
  | trigger =>
    simp only [PolicyListener.signal]
    split
    next hsenders =>
      exact ⟨Nat.le_succ_of_le h.received_le, fun hphase =>
        absurd (h.stopped hphase).1 (Nat.ne_of_gt hsenders)⟩
    next => exact h
  | share =>
    simp only [PolicyListener.signal]
    split
    next hsenders =>
      exact ⟨h.received_le, fun hphase =>
        absurd (h.stopped hphase).1 (Nat.ne_of_gt hsenders)⟩
    next => exact h
  | hangUp =>
    refine ⟨h.received_le, fun hphase => ⟨?_, (h.stopped hphase).2⟩⟩
    show listener.senders - 1 = 0
    rw [(h.stopped hphase).1]

theorem Sound.listen (h : listener.Sound) : listener.listen.Sound := by
  unfold PolicyListener.listen
  split
  next hsent => exact ⟨hsent, by rintro ⟨⟩⟩
  next hsent =>
    have hall : listener.received = listener.sent :=
      Nat.le_antisymm h.received_le (Nat.le_of_not_lt hsent)
    split
    next hsenders => exact ⟨h.received_le, fun _ => ⟨hsenders, hall⟩⟩
    next => exact h

theorem received_listen (h : listener.phase = .listening) :
    listener.listen.received = listener.received + listener.listen.pending := by
  unfold PolicyListener.listen pending
  split
  · simp
  · split <;> simp [h]

end PolicyListener

end FleetDashboard
