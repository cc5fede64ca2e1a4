import FleetDashboard.Kubernetes.VolumeShape

/-!
# Shapes of pods

What a pod asks for and how it fares, with every field of it.

* `Shape.podSpec`: what a pod asks for.
* `Shape.podStatus`: how a pod fares.
* `Shape.podTemplate`: the pods that another object makes.
* `Shape.condition`: a condition of any object.
-/

namespace FleetDashboard.Shape

open Member (may must)

/-! ## Resources -/

/-- The claims that a container uses. -/
def resourceClaim : Shape :=
  record "ResourceClaim" [must "name" text, may "request" text]

/-- How much a container may use. -/
def resourceRequirements : Shape :=
  record "ResourceRequirements" [
    may "claims" (list resourceClaim), may "limits" quantities, may "requests" quantities]

/-! ## Privileges -/

/-- Profiles that a program may be confined by, of a given type. -/
def localProfile (type : String) : Shape :=
  record type [may "localhostProfile" text, must "type" text]

/-- Labels of a confined program. -/
def seLinuxOptions : Shape :=
  record "SELinuxOptions" [may "level" text, may "role" text, may "type" text, may "user" text]

/-- Accounts of a Windows program. -/
def windowsOptions : Shape :=
  record "WindowsSecurityContextOptions" [
    may "gmsaCredentialSpec" text, may "gmsaCredentialSpecName" text, may "hostProcess" boolean,
    may "runAsUserName" text]

/-- Settings of the node's kernel. -/
def sysctl : Shape :=
  record "Sysctl" [must "name" text, must "value" text]

/-- The privileges of all containers. -/
def podSecurityContext : Shape :=
  record "PodSecurityContext" [
    may "appArmorProfile" (localProfile "AppArmorProfile"), may "fsGroup" int64,
    may "fsGroupChangePolicy" text, may "runAsGroup" int64, may "runAsNonRoot" boolean,
    may "runAsUser" int64, may "seLinuxChangePolicy" text, may "seLinuxOptions" seLinuxOptions,
    may "seccompProfile" (localProfile "SeccompProfile"), may "supplementalGroups" (list int64),
    may "supplementalGroupsPolicy" text, may "sysctls" (list sysctl),
    may "windowsOptions" windowsOptions]

/-- Privileges that are added and dropped. -/
def capabilities : Shape :=
  record "Capabilities" [may "add" texts, may "drop" texts]

/-- The privileges of one container. -/
def securityContext : Shape :=
  record "SecurityContext" [
    may "allowPrivilegeEscalation" boolean,
    may "appArmorProfile" (localProfile "AppArmorProfile"), may "capabilities" capabilities,
    may "privileged" boolean, may "procMount" text, may "readOnlyRootFilesystem" boolean,
    may "runAsGroup" int64, may "runAsNonRoot" boolean, may "runAsUser" int64,
    may "seLinuxOptions" seLinuxOptions, may "seccompProfile" (localProfile "SeccompProfile"),
    may "windowsOptions" windowsOptions]

/-! ## Containers -/

/-- Where the value of a variable comes from. -/
def envVarSource : Shape :=
  record "EnvVarSource" [
    may "configMapKeyRef" (keySelector "ConfigMapKeySelector"), may "fieldRef" fieldSelector,
    may "resourceFieldRef" resourceFieldSelector,
    may "secretKeyRef" (keySelector "SecretKeySelector")]

/-- Variables. -/
def envVar : Shape :=
  record "EnvVar" [must "name" text, may "value" text, may "valueFrom" envVarSource]

/-- Objects that may be missing, of which every key is a variable. -/
def envSource (type : String) : Shape :=
  record type [must "name" text, may "optional" boolean]

/-- Objects of which every key is a variable, with a prefix. -/
def envFromSource : Shape :=
  record "EnvFromSource" [
    may "configMapRef" (envSource "ConfigMapEnvSource"), may "prefix" text,
    may "secretRef" (envSource "SecretEnvSource")]

/-- Commands. -/
def execAction : Shape :=
  record "ExecAction" [may "command" texts]

/-- Headers of a request. -/
def httpHeader : Shape :=
  record "HTTPHeader" [must "name" text, must "value" text]

/-- Requests. -/
def httpGetAction : Shape :=
  record "HTTPGetAction" [
    may "host" text, may "httpHeaders" (list httpHeader), may "path" text,
    must "port" int32OrText, may "scheme" text]

/-- Pauses. -/
def sleepAction : Shape :=
  record "SleepAction" [must "seconds" int64]

/-- Connections. -/
def tcpSocketAction : Shape :=
  record "TCPSocketAction" [may "host" text, must "port" int32OrText]

/-- Calls. -/
def grpcAction : Shape :=
  record "GRPCAction" [must "port" int32, may "service" text]

/-- What is done when a container starts or stops. -/
def lifecycleHandler : Shape :=
  record "LifecycleHandler" [
    may "exec" execAction, may "httpGet" httpGetAction, may "sleep" sleepAction,
    may "tcpSocket" tcpSocketAction]

/-- What is done when a container starts and stops. -/
def lifecycle : Shape :=
  record "Lifecycle" [may "postStart" lifecycleHandler, may "preStop" lifecycleHandler]

/-- How it is found out how a container fares. -/
def probe : Shape :=
  record "Probe" [
    may "exec" execAction, may "failureThreshold" int32, may "grpc" grpcAction,
    may "httpGet" httpGetAction, may "initialDelaySeconds" int32, may "periodSeconds" int32,
    may "successThreshold" int32, may "tcpSocket" tcpSocketAction,
    may "terminationGracePeriodSeconds" int64, may "timeoutSeconds" int32]

/-- Ports. -/
def containerPort : Shape :=
  record "ContainerPort" [
    must "containerPort" int32, may "hostIP" text, may "hostPort" int32, may "name" text,
    may "protocol" text]

/-- Whether a container is started again when it may use more. -/
def resizePolicy : Shape :=
  record "ContainerResizePolicy" [must "resourceName" text, must "restartPolicy" text]

/-- Devices. -/
def volumeDevice : Shape :=
  record "VolumeDevice" [must "devicePath" text, must "name" text]

/-- Volumes that a container mounts. -/
def volumeMount : Shape :=
  record "VolumeMount" [
    must "mountPath" text, may "mountPropagation" text, must "name" text, may "readOnly" boolean,
    may "recursiveReadOnly" text, may "subPath" text, may "subPathExpr" text]

/-- The fields of every container, up to its standard input. -/
def firstContainerFields : List Member := [
  may "args" texts, may "command" texts, may "env" (list envVar),
  may "envFrom" (list envFromSource), may "image" text, may "imagePullPolicy" text,
  may "lifecycle" lifecycle, may "livenessProbe" probe, must "name" text,
  may "ports" (list containerPort), may "readinessProbe" probe,
  may "resizePolicy" (list resizePolicy), may "resources" resourceRequirements,
  may "restartPolicy" text, may "securityContext" securityContext, may "startupProbe" probe,
  may "stdin" boolean, may "stdinOnce" boolean]

/-- The fields of every container behind that. -/
def lastContainerFields : List Member := [
  may "terminationMessagePath" text, may "terminationMessagePolicy" text, may "tty" boolean,
  may "volumeDevices" (list volumeDevice), may "volumeMounts" (list volumeMount),
  may "workingDir" text]

/-- Containers. -/
def container : Shape :=
  record "Container" (firstContainerFields ++ lastContainerFields)

/-- Containers that are added to a pod that runs. -/
def ephemeralContainer : Shape :=
  record "EphemeralContainer"
    (firstContainerFields ++ [may "targetContainerName" text] ++ lastContainerFields)

/-! ## Places -/

/-- Requirements on nodes. -/
def nodeSelectorRequirement : Shape :=
  record "NodeSelectorRequirement" [must "key" text, must "operator" text, may "values" texts]

/-- Requirements on nodes that have to hold together. -/
def nodeSelectorTerm : Shape :=
  record "NodeSelectorTerm" [
    may "matchExpressions" (list nodeSelectorRequirement),
    may "matchFields" (list nodeSelectorRequirement)]

/-- Requirements on nodes of which some have to hold. -/
def nodeSelector : Shape :=
  record "NodeSelector" [must "nodeSelectorTerms" (list nodeSelectorTerm)]

/-- Nodes that are better than others. -/
def preferredSchedulingTerm : Shape :=
  record "PreferredSchedulingTerm" [must "preference" nodeSelectorTerm, must "weight" int32]

/-- On which nodes a pod runs. -/
def nodeAffinity : Shape :=
  record "NodeAffinity" [
    may "preferredDuringSchedulingIgnoredDuringExecution" (list preferredSchedulingTerm),
    may "requiredDuringSchedulingIgnoredDuringExecution" nodeSelector]

/-- Pods that matter to where a pod runs. -/
def podAffinityTerm : Shape :=
  record "PodAffinityTerm" [
    may "labelSelector" labelSelector, may "matchLabelKeys" texts,
    may "mismatchLabelKeys" texts, may "namespaceSelector" labelSelector,
    may "namespaces" texts, must "topologyKey" text]

/-- Pods that matter more than others. -/
def weightedPodAffinityTerm : Shape :=
  record "WeightedPodAffinityTerm" [must "podAffinityTerm" podAffinityTerm, must "weight" int32]

/-- Near to which pods a pod runs, or far from which. -/
def podAffinity (type : String) : Shape :=
  record type [
    may "preferredDuringSchedulingIgnoredDuringExecution" (list weightedPodAffinityTerm),
    may "requiredDuringSchedulingIgnoredDuringExecution" (list podAffinityTerm)]

/-- Where a pod runs. -/
def affinity : Shape :=
  record "Affinity" [
    may "nodeAffinity" nodeAffinity, may "podAffinity" (podAffinity "PodAffinity"),
    may "podAntiAffinity" (podAffinity "PodAntiAffinity")]

/-- What a pod puts up with. -/
def toleration : Shape :=
  record "Toleration" [
    may "effect" text, may "key" text, may "operator" text, may "tolerationSeconds" int64,
    may "value" text]

/-- How pods are spread. -/
def topologySpreadConstraint : Shape :=
  record "TopologySpreadConstraint" [
    may "labelSelector" labelSelector, may "matchLabelKeys" texts, must "maxSkew" int32,
    may "minDomains" int32, may "nodeAffinityPolicy" text, may "nodeTaintsPolicy" text,
    must "topologyKey" text, must "whenUnsatisfiable" text]

/-! ## What a pod asks for -/

/-- Options of a resolver. -/
def dnsOption : Shape :=
  record "PodDNSConfigOption" [may "name" text, may "value" text]

/-- Resolvers. -/
def dnsConfig : Shape :=
  record "PodDNSConfig" [
    may "nameservers" texts, may "options" (list dnsOption), may "searches" texts]

/-- Names of hosts. -/
def hostAlias : Shape :=
  record "HostAlias" [may "hostnames" texts, must "ip" text]

/-- Operating systems. -/
def podOS : Shape :=
  record "PodOS" [must "name" text]

/-- Conditions that a pod has to meet before it is ready. -/
def readinessGate : Shape :=
  record "PodReadinessGate" [must "conditionType" text]

/-- What has to be done before a pod is given a node. -/
def schedulingGate : Shape :=
  record "PodSchedulingGate" [must "name" text]

/-- Claims of a pod on devices. -/
def podResourceClaim : Shape :=
  record "PodResourceClaim" [
    must "name" text, may "resourceClaimName" text, may "resourceClaimTemplateName" text]

/-- What a pod asks for. -/
def podSpec : Shape :=
  record "PodSpec" [
    may "activeDeadlineSeconds" int64, may "affinity" affinity,
    may "automountServiceAccountToken" boolean, must "containers" (list container),
    may "dnsConfig" dnsConfig, may "dnsPolicy" text, may "enableServiceLinks" boolean,
    may "ephemeralContainers" (list ephemeralContainer), may "hostAliases" (list hostAlias),
    may "hostIPC" boolean, may "hostNetwork" boolean, may "hostPID" boolean,
    may "hostUsers" boolean, may "hostname" text, may "imagePullSecrets" (list localReference),
    may "initContainers" (list container), may "nodeName" text, may "nodeSelector" textMap,
    may "os" podOS, may "overhead" quantities, may "preemptionPolicy" text,
    may "priority" int32, may "priorityClassName" text,
    may "readinessGates" (list readinessGate), may "resourceClaims" (list podResourceClaim),
    may "resources" resourceRequirements, may "restartPolicy" text,
    may "runtimeClassName" text, may "schedulerName" text,
    may "schedulingGates" (list schedulingGate), may "securityContext" podSecurityContext,
    may "serviceAccount" text, may "serviceAccountName" text, may "setHostnameAsFQDN" boolean,
    may "shareProcessNamespace" boolean, may "subdomain" text,
    may "terminationGracePeriodSeconds" int64, may "tolerations" (list toleration),
    may "topologySpreadConstraints" (list topologySpreadConstraint),
    may "volumes" (list volume)]

/-- The pods that another object makes. -/
def podTemplate : Shape :=
  record "PodTemplateSpec" [may "metadata" objectMeta, may "spec" podSpec]

/-! ## How a pod fares -/

/-- Conditions of an object, of a given type and with some times. -/
def condition (type : String) (times : List String) : Shape :=
  record type (times.map (may · moment) ++ [
    may "message" text, may "reason" text, must "status" text, must "type" text])

/-- Since when a container runs. -/
def containerRunning : Shape :=
  record "ContainerStateRunning" [may "startedAt" moment]

/-- How a container ended. -/
def containerTerminated : Shape :=
  record "ContainerStateTerminated" [
    may "containerID" text, must "exitCode" int32, may "finishedAt" moment, may "message" text,
    may "reason" text, may "signal" int32, may "startedAt" moment]

/-- What a container waits for. -/
def containerWaiting : Shape :=
  record "ContainerStateWaiting" [may "message" text, may "reason" text]

/-- Whether a container runs. -/
def containerState : Shape :=
  record "ContainerState" [
    may "running" containerRunning, may "terminated" containerTerminated,
    may "waiting" containerWaiting]

/-- How a device fares. -/
def resourceHealth : Shape :=
  record "ResourceHealth" [may "health" text, must "resourceID" text]

/-- How the devices of a container fare. -/
def resourceStatus : Shape :=
  record "ResourceStatus" [must "name" text, may "resources" (list resourceHealth)]

/-- Accounts of a Linux program. -/
def linuxUser : Shape :=
  record "LinuxContainerUser" [
    must "gid" int64, may "supplementalGroups" (list int64), must "uid" int64]

/-- Accounts of a container. -/
def containerUser : Shape :=
  record "ContainerUser" [may "linux" linuxUser]

/-- How a volume is mounted. -/
def volumeMountStatus : Shape :=
  record "VolumeMountStatus" [
    must "mountPath" text, must "name" text, may "readOnly" boolean,
    may "recursiveReadOnly" text]

/-- How a container fares. -/
def containerStatus : Shape :=
  record "ContainerStatus" [
    may "allocatedResources" quantities,
    may "allocatedResourcesStatus" (list resourceStatus), may "containerID" text,
    must "image" text, must "imageID" text, may "lastState" containerState, must "name" text,
    must "ready" boolean, may "resources" resourceRequirements, must "restartCount" int32,
    may "started" boolean, may "state" containerState, may "user" containerUser,
    may "volumeMounts" (list volumeMountStatus)]

/-- Addresses, of a given type. -/
def address (type : String) : Shape :=
  record type [must "ip" text]

/-- How the claims of a pod on devices fare. -/
def resourceClaimStatus : Shape :=
  record "PodResourceClaimStatus" [must "name" text, may "resourceClaimName" text]

/-- How a pod fares. -/
def podStatus : Shape :=
  record "PodStatus" [
    may "conditions" (list (condition "PodCondition" ["lastProbeTime", "lastTransitionTime"])),
    may "containerStatuses" (list containerStatus),
    may "ephemeralContainerStatuses" (list containerStatus), may "hostIP" text,
    may "hostIPs" (list (address "HostIP")), may "initContainerStatuses" (list containerStatus),
    may "message" text, may "nominatedNodeName" text, may "phase" text, may "podIP" text,
    may "podIPs" (list (address "PodIP")), may "qosClass" text, may "reason" text,
    may "resize" text, may "resourceClaimStatuses" (list resourceClaimStatus),
    may "startTime" moment]

end FleetDashboard.Shape
