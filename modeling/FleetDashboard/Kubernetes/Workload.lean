import FleetDashboard.Kubernetes.Pod

/-!
# Deployments, replica sets and cron jobs

The objects that make pods, as far as they are shown.
-/

namespace FleetDashboard

/-! ## Shapes -/

namespace Shape

open Member (may must)

/-- How far pods are replaced at once. -/
def rollingUpdate : Shape :=
  record "RollingUpdateDeployment" [
    may "maxSurge" int32OrText, may "maxUnavailable" int32OrText]

/-- How pods are replaced. -/
def deploymentStrategy : Shape :=
  record "DeploymentStrategy" [may "rollingUpdate" rollingUpdate, may "type" text]

/-- What a deployment asks for. -/
def deploymentSpec : Shape :=
  record "DeploymentSpec" [
    may "minReadySeconds" int32, may "paused" boolean, may "progressDeadlineSeconds" int32,
    may "replicas" int32, may "revisionHistoryLimit" int32, must "selector" labelSelector,
    may "strategy" deploymentStrategy, must "template" podTemplate]

/-- How a deployment fares. -/
def deploymentStatus : Shape :=
  record "DeploymentStatus" [
    may "availableReplicas" int32, may "collisionCount" int32,
    may "conditions"
      (list (condition "DeploymentCondition" ["lastTransitionTime", "lastUpdateTime"])),
    may "observedGeneration" int64, may "readyReplicas" int32, may "replicas" int32,
    may "unavailableReplicas" int32, may "updatedReplicas" int32]

/-- What a replica set asks for. -/
def replicaSetSpec : Shape :=
  record "ReplicaSetSpec" [
    may "minReadySeconds" int32, may "replicas" int32, must "selector" labelSelector,
    may "template" podTemplate]

/-- How a replica set fares. -/
def replicaSetStatus : Shape :=
  record "ReplicaSetStatus" [
    may "availableReplicas" int32,
    may "conditions" (list (condition "ReplicaSetCondition" ["lastTransitionTime"])),
    may "fullyLabeledReplicas" int32, may "observedGeneration" int64,
    may "readyReplicas" int32, must "replicas" int32]

/-- The ends of containers that make a job fail. -/
def exitCodesRequirement : Shape :=
  record "PodFailurePolicyOnExitCodesRequirement" [
    may "containerName" text, must "operator" text, must "values" (list int32)]

/-- The conditions of pods that make a job fail. -/
def podConditionsPattern : Shape :=
  record "PodFailurePolicyOnPodConditionsPattern" [must "status" text, must "type" text]

/-- What is done when a pod fails. -/
def podFailureRule : Shape :=
  record "PodFailurePolicyRule" [
    must "action" text, may "onExitCodes" exitCodesRequirement,
    may "onPodConditions" (list podConditionsPattern)]

/-- What is done when pods fail. -/
def podFailurePolicy : Shape :=
  record "PodFailurePolicy" [must "rules" (list podFailureRule)]

/-- The pods that make a job succeed. -/
def successRule : Shape :=
  record "SuccessPolicyRule" [may "succeededCount" int32, may "succeededIndexes" text]

/-- When a job succeeds. -/
def successPolicy : Shape :=
  record "SuccessPolicy" [must "rules" (list successRule)]

/-- What a job asks for. -/
def jobSpec : Shape :=
  record "JobSpec" [
    may "activeDeadlineSeconds" int64, may "backoffLimit" int32,
    may "backoffLimitPerIndex" int32, may "completionMode" text, may "completions" int32,
    may "managedBy" text, may "manualSelector" boolean, may "maxFailedIndexes" int32,
    may "parallelism" int32, may "podFailurePolicy" podFailurePolicy,
    may "podReplacementPolicy" text, may "selector" labelSelector,
    may "successPolicy" successPolicy, may "suspend" boolean, must "template" podTemplate,
    may "ttlSecondsAfterFinished" int32]

/-- The jobs that a cron job makes. -/
def jobTemplate : Shape :=
  record "JobTemplateSpec" [may "metadata" objectMeta, may "spec" jobSpec]

/-- What a cron job asks for. -/
def cronJobSpec : Shape :=
  record "CronJobSpec" [
    may "concurrencyPolicy" text, may "failedJobsHistoryLimit" int32,
    must "jobTemplate" jobTemplate, must "schedule" text, may "startingDeadlineSeconds" int64,
    may "successfulJobsHistoryLimit" int32, may "suspend" boolean, may "timeZone" text]

/-- Objects that are named by others. -/
def objectReference : Shape :=
  record "ObjectReference" [
    may "apiVersion" text, may "fieldPath" text, may "kind" text, may "name" text,
    may "namespace" text, may "resourceVersion" text, may "uid" text]

/-- How a cron job fares. -/
def cronJobStatus : Shape :=
  record "CronJobStatus" [
    may "active" (list objectReference), may "lastScheduleTime" moment,
    may "lastSuccessfulTime" moment]

end Shape

/-! ## Deployments -/

/-- What a deployment asks for. -/
structure DeploymentSpec where
  /-- How many pods. -/
  replicas : Option Int
  /-- The pods it makes. -/
  template : PodTemplate
deriving DecidableEq

namespace DeploymentSpec

/-- Nothing is asked for. -/
def empty : DeploymentSpec :=
  { replicas := none, template := .empty }

/-- What is asked for in some fields. -/
def ofFields (fields : Fields) : DeploymentSpec :=
  { replicas := fields.shown? "replicas" Decoder.int32
    template := ((fields.record? "template").map PodTemplate.ofFields).getD .empty }

end DeploymentSpec

/-- How a deployment fares. -/
structure DeploymentStatus where
  /-- How many pods there are. -/
  replicas : Option Int
  /-- How many of them are available. -/
  availableReplicas : Option Int
deriving DecidableEq

namespace DeploymentStatus

/-- Nothing is known. -/
def empty : DeploymentStatus :=
  { replicas := none, availableReplicas := none }

/-- How a deployment fares by some fields. -/
def ofFields (fields : Fields) : DeploymentStatus :=
  { replicas := fields.shown? "replicas" Decoder.int32
    availableReplicas := fields.shown? "availableReplicas" Decoder.int32 }

end DeploymentStatus

/-- A deployment. -/
structure Deployment where
  /-- Its metadata. -/
  metadata : Metadata
  /-- What it asks for. -/
  spec : Option DeploymentSpec
  /-- How it fares. -/
  status : Option DeploymentStatus

instance : Resource Deployment where
  kind := .deployment
  members := [.may "spec" Shape.deploymentSpec, .may "status" Shape.deploymentStatus]
  ofParts metadata fields :=
    { metadata
      spec := (fields.record? "spec").map DeploymentSpec.ofFields
      status := (fields.record? "status").map DeploymentStatus.ofFields }

/-! ## Replica sets -/

/-- What a replica set asks for. -/
structure ReplicaSetSpec where
  /-- How many pods. -/
  replicas : Option Int
  /-- The pods it makes. -/
  template : Option PodTemplate
deriving DecidableEq

/-- What is asked for in some fields. -/
def ReplicaSetSpec.ofFields (fields : Fields) : ReplicaSetSpec :=
  { replicas := fields.shown? "replicas" Decoder.int32
    template := (fields.record? "template").map PodTemplate.ofFields }

/-- How a replica set fares. -/
structure ReplicaSetStatus where
  /-- How many pods there are. -/
  replicas : Int
deriving DecidableEq

/-- How a replica set fares by some fields. -/
def ReplicaSetStatus.ofFields (fields : Fields) : ReplicaSetStatus :=
  { replicas := (fields.shown? "replicas" Decoder.int32).getD 0 }

/-- A replica set. -/
structure ReplicaSet where
  /-- Its metadata. -/
  metadata : Metadata
  /-- What it asks for. -/
  spec : Option ReplicaSetSpec
  /-- How it fares. -/
  status : Option ReplicaSetStatus

instance : Resource ReplicaSet where
  kind := .replicaSet
  members := [.may "spec" Shape.replicaSetSpec, .may "status" Shape.replicaSetStatus]
  ofParts metadata fields :=
    { metadata
      spec := (fields.record? "spec").map ReplicaSetSpec.ofFields
      status := (fields.record? "status").map ReplicaSetStatus.ofFields }

/-! ## Cron jobs -/

/-- What the jobs of a cron job ask for. -/
structure JobSpec where
  /-- The pods they make. -/
  template : PodTemplate
deriving DecidableEq

/-- What is asked for in some fields. -/
def JobSpec.ofFields (fields : Fields) : JobSpec :=
  { template := ((fields.record? "template").map PodTemplate.ofFields).getD .empty }

/-- The jobs that a cron job makes. -/
structure JobTemplate where
  /-- What they ask for. -/
  spec : Option JobSpec
deriving DecidableEq

namespace JobTemplate

/-- Nothing is asked for. -/
def empty : JobTemplate :=
  { spec := none }

/-- The template that is made of some fields. -/
def ofFields (fields : Fields) : JobTemplate :=
  { spec := (fields.record? "spec").map JobSpec.ofFields }

end JobTemplate

/-- What a cron job asks for. -/
structure CronJobSpec where
  /-- When it runs. -/
  schedule : String
  /-- Whether it is held. -/
  suspended : Option Bool
  /-- The jobs it makes. -/
  jobTemplate : JobTemplate
deriving DecidableEq

namespace CronJobSpec

/-- Nothing is asked for. -/
def empty : CronJobSpec :=
  { schedule := "", suspended := none, jobTemplate := .empty }

/-- What is asked for in some fields. -/
def ofFields (fields : Fields) : CronJobSpec :=
  { schedule := (fields.shown? "schedule" Decoder.text).getD ""
    suspended := fields.shown? "suspend" Decoder.boolean
    jobTemplate := ((fields.record? "jobTemplate").map JobTemplate.ofFields).getD .empty }

end CronJobSpec

/-- A job that is named by a cron job. -/
structure ObjectReference where
  /-- Its name. -/
  name : Option String
deriving DecidableEq

/-- The reference that is made of some fields. -/
def ObjectReference.ofFields (fields : Fields) : ObjectReference :=
  { name := fields.shown? "name" Decoder.text }

/-- How a cron job fares. -/
structure CronJobStatus where
  /-- The jobs that run. -/
  active : Option (List ObjectReference)
  /-- When the last one was started. -/
  lastScheduled : Option Instant
deriving DecidableEq

namespace CronJobStatus

/-- Nothing is known. -/
def empty : CronJobStatus :=
  { active := none, lastScheduled := none }

/-- How a cron job fares by some fields. -/
def ofFields (fields : Fields) : CronJobStatus :=
  { active := (fields.records? "active").map (List.map ObjectReference.ofFields)
    lastScheduled := fields.shown? "lastScheduleTime" Decoder.moment }

end CronJobStatus

/-- A cron job. -/
structure CronJob where
  /-- Its metadata. -/
  metadata : Metadata
  /-- What it asks for. -/
  spec : Option CronJobSpec
  /-- How it fares. -/
  status : Option CronJobStatus

instance : Resource CronJob where
  kind := .cronJob
  members := [.may "spec" Shape.cronJobSpec, .may "status" Shape.cronJobStatus]
  ofParts metadata fields :=
    { metadata
      spec := (fields.record? "spec").map CronJobSpec.ofFields
      status := (fields.record? "status").map CronJobStatus.ofFields }

end FleetDashboard
