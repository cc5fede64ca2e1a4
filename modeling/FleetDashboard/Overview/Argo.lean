import FleetDashboard.Clients.Target
import FleetDashboard.Listing.Gather

/-!
# Argo CD in the overview

How many applications and projects there are on some member clusters. A kind that is missing on a
cluster counts nothing; a critical failure makes the whole cluster count nothing.
-/

namespace FleetDashboard

/-- Numbers of Argo CD objects. -/
structure ArgoCounts where
  /-- Applications. -/
  applications : Nat
  /-- Projects. -/
  projects : Nat
deriving DecidableEq

namespace ArgoCounts

/-- None. -/
def zero : ArgoCounts :=
  { applications := 0, projects := 0 }

/-- The sum of two. -/
def add (a b : ArgoCounts) : ArgoCounts :=
  { applications := a.applications + b.applications, projects := a.projects + b.projects }

/-- The kinds that are counted. -/
def kinds : List ResourceKind :=
  [.argoApplication, .argoProject]

/-- The numbers of what was listed on one cluster. -/
def ofGathered (gathered : Gathered) : ArgoCounts :=
  match gathered.drain with
  | .ok lists =>
    { applications := lists.count .argoApplication, projects := lists.count .argoProject }
  | .error _ => zero

/-- The form in response bodies. -/
def toJson (counts : ArgoCounts) : Json :=
  .obj [("applicationCount", .nat counts.applications), ("projectCount", .nat counts.projects)]

end ArgoCounts

/-- Counts the objects on one cluster. -/
def BoundLister.argoCounts (member : BoundLister) (scope : Scope) : Task TargetCall ArgoCounts := do
  let gathered ← member.run fun lister => lister.gather ArgoCounts.kinds .all scope
  return .ofGathered gathered

/-- Counts the objects on several clusters side by side. -/
def argoCounts (members : List BoundLister) (scope : Scope) : Task TargetCall ArgoCounts := do
  let counts ← Task.all (members.map fun member => member.argoCounts scope)
  return counts.foldl ArgoCounts.add .zero

end FleetDashboard
