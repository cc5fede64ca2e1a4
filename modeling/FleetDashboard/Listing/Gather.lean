import FleetDashboard.Listing.Lister

/-!
# Gathering several kinds

The objects of several kinds are listed side by side, one call each. Failures that only degrade the
response become warnings; the first critical failure in the order of the kinds, not in that of
arrival, aborts the whole.

* `listOne`: one kind within a scope; a call that is late or cancelled has failed.
* `gather`: every kind, in order, with what became of it.
* `Gathered.drain`: the lists with the warnings, or the critical failure.
* `Lists.take`, `Lists.count`: the objects of a kind.
-/

namespace FleetDashboard

/-- The objects of a kind, or why there are none. -/
abbrev ListOutcome := Except ServerFailure (List ApiObject)

/-- What a call for a kind has come to when it ends within its bounds or at them. -/
def ListOutcome.ofEnding (kind : ResourceKind) : Ending (Reply (List ApiObject)) → ListOutcome
  | .result (.answer objects) => .ok objects
  | .result (.failure failure) => .error failure
  | .result .broken =>
    .error (.plain .internal ("list task for " ++ kind.name ++ " exited without a result"))
  | .cancelled => .error (.timeout ("list " ++ kind.name ++ " cancelled"))
  | .late => .error (.timeout ("list " ++ kind.name ++ " exceeded request deadline"))

/-- Lists one kind within a scope. -/
def Lister.listOne (lister : Lister) (wanted : Namespaces) (scope : Scope) (kind : ResourceKind) :
    Task Call ListOutcome := do
  (Call.list kind wanted).start scope
  let ending ← Task.await scope (lister.list kind wanted)
  return .ofEnding kind ending

/-- Kinds in the order asked for, each with what became of it. -/
abbrev Gathered := List (ResourceKind × ListOutcome)

/-- Lists several kinds side by side. -/
def Lister.gather (lister : Lister) (kinds : List ResourceKind) (wanted : Namespaces)
    (scope : Scope) : Task Call Gathered := do
  let outcomes ← Task.all (kinds.map (lister.listOne wanted scope))
  return kinds.zip outcomes

/-- The lists that were gathered, and the failures that only degrade the response. -/
structure Lists where
  /-- The objects by kind, each kind once. -/
  byKind : List (ResourceKind × List ApiObject)
  /-- The warnings, in order. -/
  warnings : List ServerFailure

namespace Lists

/-- The objects of a kind; none if they were not listed. -/
def objects (lists : Lists) (kind : ResourceKind) : List ApiObject :=
  ((lists.byKind.find? fun entry => entry.1 == kind).map (·.2)).getD []

/-- How many objects of a kind there are. -/
def count (lists : Lists) (kind : ResourceKind) : Nat :=
  (lists.objects kind).length

/-- The objects of a kind, which are then gone. -/
def take (lists : Lists) (kind : ResourceKind) : List ApiObject × Lists :=
  (lists.objects kind, { lists with byKind := lists.byKind.filter fun entry => entry.1 != kind })

/-- The warnings, which are then gone. -/
def takeWarnings (lists : Lists) : List ServerFailure × Lists :=
  (lists.warnings, { lists with warnings := [] })

end Lists

namespace Gathered

/-- The failures, in order. -/
def failures (gathered : Gathered) : List ServerFailure :=
  gathered.filterMap fun entry =>
    match entry.2 with
    | .ok _ => none
    | .error failure => some failure

/-- Puts a list in place of the one that there was for the kind. -/
def put (byKind : List (ResourceKind × List ApiObject)) (kind : ResourceKind)
    (objects : List ApiObject) : List (ResourceKind × List ApiObject) :=
  (byKind.filter fun entry => entry.1 != kind) ++ [(kind, objects)]

/-- The lists by kind; of a kind that was asked for twice, the later one. -/
def successes (gathered : Gathered) : List (ResourceKind × List ApiObject) :=
  gathered.foldl (fun byKind entry =>
    match entry.2 with
    | .ok objects => put byKind entry.1 objects
    | .error _ => byKind) []

/-- The lists with the warnings, or the first critical failure in the order of the kinds. -/
def drain (gathered : Gathered) : Except ServerFailure Lists := do
  let warnings ← (FailureSplit.ofList gathered.failures).result
  return { byKind := gathered.successes, warnings }

end Gathered

end FleetDashboard
