import FleetDashboard.Listing.Aggregate
import FleetDashboard.Proofs.Listing.Gather
import FleetDashboard.Proofs.Time.ScopeTree

/-!
# What an aggregate comes to

An aggregate gathers its kinds, task by task, in a scope of its own below the caller's. That scope
is cancelled with the caller's and with no other, so the tasks are bounded as if they ran in the
caller's scope: an aggregate starts the calls of a gathering there, is over when that is, and is
drained to the same. In the end it cancels its own scope, which reaches none of those that there
were before.

* `ChannelSet.read_value`, `ChannelSet.read_finish`: what is read from channels, and when the last one
  is read.
* `Lister.aggregate_eq`: an aggregate is a gathering in the caller's scope.
* `Lister.aggregates`: its calls, its end, what it is drained to and what it leaves cancelled.
-/

namespace FleetDashboard

variable {kinds : List ResourceKind} {wanted : Namespaces} {now moment : Nat}

/-! ## Reading channels -/

namespace ChannelSet

variable {lister : Lister} {scope : Scope}

/-- What is read is what each task has published, in the order of the channels. -/
theorem read_value (channels : List (ResourceKind × Run Call ListOutcome)) (now : Nat) :
    (read channels now).value = channels.map fun channel => (channel.1, channel.2.value) := by
  induction channels generalizing now with
  | nil => rfl
  | cons channel rest ih => rw [read, ih, List.map_cons]

/-- The last channel is read when the last task has published. -/
theorem read_finish (hnow : now ≤ moment) :
    (read (kinds.map fun kind => (kind, lister.listOne wanted scope kind now)) moment).finish =
      max moment (lister.lastEnd kinds wanted scope now) := by
  -- tasks that publish while an earlier channel is waited for add nothing to the wait
  induction kinds generalizing moment with
  | nil => exact (Nat.max_eq_left hnow).symm
  | cons kind rest ih =>
    have hrest : now ≤ lister.lastEnd rest wanted scope now := Lister.le_lastEnd
    rw [List.map_cons, read, ih (Nat.le_trans hnow (Nat.le_max_left _ _)), Lister.listOne_finish,
      Lister.lastEnd_cons]
    omega

end ChannelSet

/-! ## Aggregates -/

namespace Lister

variable {lister : Lister} {timeline : ScopeTimeline} {caller : Nat}

/-- An aggregate is a gathering in the caller's scope, drained; then its own scope is cancelled. -/
theorem aggregate_eq (h : timeline.Sound) (hcaller : caller < timeline.tree.scopes.length) :
    lister.aggregate kinds wanted timeline caller now =
      let run := lister.gather kinds wanted (timeline.scope caller) now
      ⟨(run.value.drain,
          (timeline.child caller).cancelAt timeline.tree.scopes.length run.finish),
        run.finish, run.log⟩ := by
  -- the tasks are bounded by a scope that is no other than the caller's
  have hscope := ScopeTimeline.scope_child_self h hcaller
  have hvalue : (ChannelSet.read (kinds.map fun kind =>
      (kind, lister.listOne wanted (timeline.scope caller) kind now)) now).value =
        (lister.gather kinds wanted (timeline.scope caller) now).value := by
    simp only [ChannelSet.read_value, gather_value, List.map_map, Function.comp_def, listOne_value]
  have hfinish : (ChannelSet.read (kinds.map fun kind =>
      (kind, lister.listOne wanted (timeline.scope caller) kind now)) now).finish =
        (lister.gather kinds wanted (timeline.scope caller) now).finish := by
    rw [ChannelSet.read_finish (Nat.le_refl now), gather_finish]
    exact Nat.max_eq_right le_lastEnd
  have hlog : (kinds.map fun kind =>
      (kind, lister.listOne wanted (timeline.scope caller) kind now)).flatMap
        (fun channel => channel.2.log) =
      (lister.gather kinds wanted (timeline.scope caller) now).log := by
    simp only [gather, Task.bind_eq_andThen, Task.pure_eq_done, Task.andThen_log, Task.done_run,
      Task.all_log, List.flatMap_map, List.append_nil]
  simp only [aggregate, spawn, ChannelSet.drop, ChannelSet.calls, hscope, hvalue, hfinish, hlog]

/-- What an aggregate from `now` on has to come to that lists some kinds for a caller. -/
structure Aggregates (lister : Lister) (kinds : List ResourceKind) (wanted : Namespaces)
    (timeline : ScopeTimeline) (caller now : Nat)
    (run : Run Call (Except ServerFailure Lists × ScopeTimeline)) : Prop where
  /-- One call is started for each kind, whatever becomes of it, unless the caller's scope is
  cancelled: then there is none. -/
  calls : run.log =
    if timeline.isCancelled caller now then [] else kinds.map fun kind => .list kind wanted
  /-- It is over at the last end of a call, whatever the calls come to. -/
  finish : run.finish = lister.lastEnd kinds wanted (timeline.scope caller) now
  /-- It never waits beyond the deadline. -/
  within : run.finish ≤ max now timeline.tree.deadline
  /-- It is drained to what each of the kinds comes to in the caller's scope. -/
  drains : Gathered.Drains kinds (lister.outcome wanted (timeline.scope caller) now) run.value.1
  /-- Of the scopes that there were, the caller's among them, each is cancelled when it was. -/
  scopes : ∀ scope < timeline.tree.scopes.length, ∀ moment,
    run.value.2.isCancelled scope moment = timeline.isCancelled scope moment
  /-- The scope of its own is cancelled once it is over. -/
  own : ∀ moment, run.finish ≤ moment →
    run.value.2.isCancelled timeline.tree.scopes.length moment = true

/-- Whatever delays, failures and cancellations the calls meet, an aggregate starts one for each
kind, waits for the last of them and no longer, and leaves the caller's scope alone. -/
theorem aggregates (lister : Lister) (kinds : List ResourceKind) (wanted : Namespaces)
    (timeline : ScopeTimeline) (caller now : Nat) (h : timeline.Sound)
    (hcaller : caller < timeline.tree.scopes.length) :
    lister.Aggregates kinds wanted timeline caller now
      (lister.aggregate kinds wanted timeline caller now) := by
  rw [aggregate_eq h hcaller]
  refine ⟨?_, gather_finish .., ?_, (lister.drain_gather kinds wanted _ now).1,
    fun scope hscope moment => ?_, fun moment hmoment => ?_⟩
  · simp only [gather_log, ScopeTimeline.isCancelled_scope h.wellFormed]
  · simp only [gather_finish]
    exact lastEnd_le
  · exact ScopeTimeline.isCancelled_cancelAt_child h hscope _
  · exact ScopeTimeline.isCancelled_cancelAt_child_self h hmoment

/-- Pods that are never listed keep an aggregate waiting until what its caller stems from is
cancelled, after half a second: the list task of the secrets is long dead by then. -/
theorem aggregates_hangingPods :
    let lister : Lister :=
      { list := fun kind _ => if kind = .pod then .never else .after 300 .broken
        get := fun _ _ _ => .never }
    let timeline : ScopeTimeline :=
      { tree := (ScopeTree.lasting 2000).child 0, cancels := [(500, 0)] }
    timeline.Sound ∧ 1 < timeline.tree.scopes.length ∧
      lister.Aggregates [.secret, .pod] .all timeline 1 100
        (lister.aggregate [.secret, .pod] .all timeline 1 100) ∧
      (lister.aggregate [.secret, .pod] .all timeline 1 100).finish = 500 := by
  intro lister timeline
  have hsound : timeline.Sound := by
    refine ⟨.child 0 (.lasting 2000), fun c hc => ?_⟩
    obtain rfl := List.mem_singleton.1 hc
    decide
  have hcaller : 1 < timeline.tree.scopes.length := by decide
  exact ⟨hsound, hcaller, lister.aggregates _ _ _ _ _ hsound hcaller, rfl⟩

end Lister

end FleetDashboard
