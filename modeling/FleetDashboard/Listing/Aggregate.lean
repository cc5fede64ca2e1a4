import FleetDashboard.Listing.Gather
import FleetDashboard.Time.ScopeTree

/-!
# Aggregates

Gathering, task by task. Each kind is listed by a task that publishes its outcome on a channel of
its own. The tasks run in a scope of theirs, a child of the caller's scope, so that giving them up
leaves the caller's scope as it is. The channels are read in the order of the kinds, each until its
task has published, and when the last one is read the set of them is dropped.

* `Lister.spawn`: starts the tasks.
* `ChannelSet.read`: reads the channels.
* `ChannelSet.drop`: cancels the scope of the tasks.
* `Lister.aggregate`: the three in a row.
-/

namespace FleetDashboard

/-- The channels of an aggregate. -/
structure ChannelSet where
  /-- The kinds in order, each with the run of its task: what it publishes, and when. -/
  channels : List (ResourceKind × Run Call ListOutcome)
  /-- The scope of the tasks. -/
  scope : Nat

/-- Starts one task for each kind, in a new scope below the caller's. -/
def Lister.spawn (lister : Lister) (kinds : List ResourceKind) (wanted : Namespaces)
    (timeline : ScopeTimeline) (caller now : Nat) : ChannelSet × ScopeTimeline :=
  let own := timeline.tree.scopes.length
  let spawned := timeline.child caller
  ({ channels := kinds.map fun kind =>
      (kind, lister.listOne wanted (spawned.scope own) kind now)
     scope := own },
    spawned)

namespace ChannelSet

/-- The calls that the tasks make. -/
def calls (set : ChannelSet) : List Call :=
  set.channels.flatMap fun channel => channel.2.log

/-- Reads channels one after another. A task that has published already is not waited for. -/
def read : List (ResourceKind × Run Call ListOutcome) → Nat → Timed Gathered
  | [], now => ⟨[], now⟩
  | (kind, task) :: rest, now =>
    let behind := read rest (max now task.finish)
    ⟨(kind, task.value) :: behind.value, behind.finish⟩

/-- Drops the set, which cancels the scope of its tasks. -/
def drop (set : ChannelSet) (timeline : ScopeTimeline) (moment : Nat) : ScopeTimeline :=
  timeline.cancelAt set.scope moment

end ChannelSet

/-- Lists several kinds from `now` on: starts the tasks, reads all channels whatever is read from
them, and drops the set. -/
def Lister.aggregate (lister : Lister) (kinds : List ResourceKind) (wanted : Namespaces)
    (timeline : ScopeTimeline) (caller : Nat) :
    Task Call (Except ServerFailure Lists × ScopeTimeline) := fun now =>
  let (set, spawned) := lister.spawn kinds wanted timeline caller now
  let gathered := ChannelSet.read set.channels now
  ⟨(gathered.value.drain, set.drop spawned gathered.finish), gathered.finish, set.calls⟩

end FleetDashboard
