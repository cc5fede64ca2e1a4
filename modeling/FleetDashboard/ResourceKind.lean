/-!
# Kinds of resources

The kinds of objects that can be listed, and where an API server serves them.
-/

namespace FleetDashboard

/-- A kind of objects. -/
inductive ResourceKind where
  | «namespace»
  | node
  | pod
  | deployment
  | replicaSet
  | statefulSet
  | daemonSet
  | job
  | cronJob
  | service
  | ingress
  | configMap
  | secret
  | persistentVolumeClaim
  | persistentVolume
  | event
  | cluster
  | propagationPolicy
  | clusterPropagationPolicy
  | overridePolicy
  | clusterOverridePolicy
  | argoApplication
  | argoProject
deriving DecidableEq

namespace ResourceKind

/-- Every kind. -/
def all : List ResourceKind :=
  [.namespace, .node, .pod, .deployment, .replicaSet, .statefulSet, .daemonSet, .job, .cronJob,
    .service, .ingress, .configMap, .secret, .persistentVolumeClaim, .persistentVolume, .event,
    .cluster, .propagationPolicy, .clusterPropagationPolicy, .overridePolicy,
    .clusterOverridePolicy, .argoApplication, .argoProject]

/-- The list of all kinds leaves none out. -/
theorem mem_all (kind : ResourceKind) : kind ∈ all := by
  cases kind <;> decide

/-- The name that the API server knows the kind by. -/
def name : ResourceKind → String
  | .namespace => "Namespace"
  | .node => "Node"
  | .pod => "Pod"
  | .deployment => "Deployment"
  | .replicaSet => "ReplicaSet"
  | .statefulSet => "StatefulSet"
  | .daemonSet => "DaemonSet"
  | .job => "Job"
  | .cronJob => "CronJob"
  | .service => "Service"
  | .ingress => "Ingress"
  | .configMap => "ConfigMap"
  | .secret => "Secret"
  | .persistentVolumeClaim => "PersistentVolumeClaim"
  | .persistentVolume => "PersistentVolume"
  | .event => "Event"
  | .cluster => "Cluster"
  | .propagationPolicy => "PropagationPolicy"
  | .clusterPropagationPolicy => "ClusterPropagationPolicy"
  | .overridePolicy => "OverridePolicy"
  | .clusterOverridePolicy => "ClusterOverridePolicy"
  | .argoApplication => "Application"
  | .argoProject => "AppProject"

/-- The kind of a name. -/
def ofName? (name : String) : Option ResourceKind :=
  all.find? fun kind => kind.name == name

/-- The name in response bodies. -/
def jsonName : ResourceKind → String
  | .argoApplication => "argoapplication"
  | .argoProject => "argoproject"
  | kind => kind.name.toLower

/-- Whether objects of the kind lie in a namespace. -/
def isNamespaced : ResourceKind → Bool
  | .namespace => false
  | .node => false
  | .persistentVolume => false
  | .cluster => false
  | .clusterPropagationPolicy => false
  | .clusterOverridePolicy => false
  | _ => true

/-- The API group; empty for the core group. -/
def group : ResourceKind → String
  | .deployment => "apps"
  | .replicaSet => "apps"
  | .statefulSet => "apps"
  | .daemonSet => "apps"
  | .job => "batch"
  | .cronJob => "batch"
  | .ingress => "networking.k8s.io"
  | .cluster => "cluster.karmada.io"
  | .propagationPolicy => "policy.karmada.io"
  | .clusterPropagationPolicy => "policy.karmada.io"
  | .overridePolicy => "policy.karmada.io"
  | .clusterOverridePolicy => "policy.karmada.io"
  | .argoApplication => "argoproj.io"
  | .argoProject => "argoproj.io"
  | _ => ""

/-- The version within the group. -/
def version : ResourceKind → String
  | .cluster => "v1alpha1"
  | .propagationPolicy => "v1alpha1"
  | .clusterPropagationPolicy => "v1alpha1"
  | .overridePolicy => "v1alpha1"
  | .clusterOverridePolicy => "v1alpha1"
  | .argoApplication => "v1alpha1"
  | .argoProject => "v1alpha1"
  | _ => "v1"

/-- Group and version as objects carry them. -/
def apiVersion (kind : ResourceKind) : String :=
  if kind.group = "" then kind.version else kind.group ++ "/" ++ kind.version

/-- The name of the collection in paths. -/
def plural : ResourceKind → String
  | .namespace => "namespaces"
  | .node => "nodes"
  | .pod => "pods"
  | .deployment => "deployments"
  | .replicaSet => "replicasets"
  | .statefulSet => "statefulsets"
  | .daemonSet => "daemonsets"
  | .job => "jobs"
  | .cronJob => "cronjobs"
  | .service => "services"
  | .ingress => "ingresses"
  | .configMap => "configmaps"
  | .secret => "secrets"
  | .persistentVolumeClaim => "persistentvolumeclaims"
  | .persistentVolume => "persistentvolumes"
  | .event => "events"
  | .cluster => "clusters"
  | .propagationPolicy => "propagationpolicies"
  | .clusterPropagationPolicy => "clusterpropagationpolicies"
  | .overridePolicy => "overridepolicies"
  | .clusterOverridePolicy => "clusteroverridepolicies"
  | .argoApplication => "applications"
  | .argoProject => "appprojects"

end ResourceKind

end FleetDashboard
