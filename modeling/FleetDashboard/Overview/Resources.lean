import FleetDashboard.Views.Basic

/-!
# Resources in the overview

How many objects of the main kinds there are on the control plane.
-/

namespace FleetDashboard

/-- Numbers of objects on the control plane. -/
structure ResourceSummary where
  /-- Propagation policies, of namespaces and of the whole cluster. -/
  propagationPolicies : Nat
  /-- Override policies, of namespaces and of the whole cluster. -/
  overridePolicies : Nat
  /-- Namespaces. -/
  namespaces : Nat
  /-- Deployments. -/
  workloads : Nat
  /-- Config maps and secrets. -/
  configurations : Nat
  /-- Services and ingresses. -/
  services : Nat
  /-- Failures that left kinds out. -/
  warnings : List ServerFailure
deriving DecidableEq

namespace ResourceSummary

/-- The kinds that are counted, in the order in which they are asked for. -/
def kinds : List ResourceKind :=
  [.propagationPolicy, .clusterPropagationPolicy, .overridePolicy, .clusterOverridePolicy,
    .namespace, .deployment, .configMap, .secret, .service, .ingress]

/-- The numbers of what was listed. -/
def ofLists (lists : Lists) : ResourceSummary :=
  { propagationPolicies :=
      lists.count .propagationPolicy + lists.count .clusterPropagationPolicy
    overridePolicies := lists.count .overridePolicy + lists.count .clusterOverridePolicy
    namespaces := lists.count .namespace
    workloads := lists.count .deployment
    configurations := lists.count .configMap + lists.count .secret
    services := lists.count .service + lists.count .ingress
    warnings := lists.warnings }

/-- The form in response bodies. -/
def toJson (summary : ResourceSummary) : Json :=
  .obj [("propagationPolicyNum", .nat summary.propagationPolicies),
    ("overridePolicyNum", .nat summary.overridePolicies),
    ("namespaceNum", .nat summary.namespaces), ("workloadNum", .nat summary.workloads),
    ("configNum", .nat summary.configurations), ("serviceNum", .nat summary.services),
    ("errors", .arr (summary.warnings.map ServerFailure.toJson))]

end ResourceSummary

/-- Counts the objects on the control plane. -/
def resourceSummary (lister : Lister) (scope : Scope) :
    Task Call (ViewResult ResourceSummary) := do
  let gathered ← lister.gather ResourceSummary.kinds .all scope
  return (gathered.drain.map ResourceSummary.ofLists).mapError ResourceError.server

end FleetDashboard
