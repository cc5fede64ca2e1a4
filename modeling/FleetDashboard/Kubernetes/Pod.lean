import FleetDashboard.Kubernetes.Object
import FleetDashboard.Kubernetes.PodShape

/-!
# Pods

Pods as far as they are looked into: where they run, their containers, and how the containers fare.
The rest is kept in its written form, so that a pod can be written again as a whole.
-/

namespace FleetDashboard

/-- A container that a pod asks for. -/
structure Container where
  /-- Its name. -/
  name : String
  /-- Its image. -/
  image : Option String
deriving DecidableEq

namespace Container

/-- The container that is made of some fields. -/
def ofFields (fields : Fields) : Container :=
  { name := (fields.shown? "name" Decoder.text).getD ""
    image := fields.shown? "image" Decoder.text }

/-- The images of containers, without those that name none. -/
def images (containers : List Container) : List String :=
  containers.filterMap (·.image)

end Container

/-- What a pod asks for. -/
structure PodSpec where
  /-- The node it runs on. -/
  nodeName : Option String
  /-- Its containers. -/
  containers : List Container
deriving DecidableEq

namespace PodSpec

/-- Nothing is asked for. -/
def empty : PodSpec :=
  { nodeName := none, containers := [] }

/-- What is asked for in some fields. -/
def ofFields (fields : Fields) : PodSpec :=
  { nodeName := fields.shown? "nodeName" Decoder.text
    containers := ((fields.records? "containers").getD []).map Container.ofFields }

end PodSpec

/-- How a container fares. -/
structure ContainerStatus where
  /-- Its name. -/
  name : String
  /-- How often it was started again. -/
  restartCount : Int
deriving DecidableEq

/-- How a container fares by some fields. -/
def ContainerStatus.ofFields (fields : Fields) : ContainerStatus :=
  { name := (fields.shown? "name" Decoder.text).getD ""
    restartCount := (fields.shown? "restartCount" Decoder.int32).getD 0 }

/-- How a pod fares. -/
structure PodStatus where
  /-- Its phase. -/
  phase : Option String
  /-- How its containers fare. -/
  containerStatuses : Option (List ContainerStatus)
deriving DecidableEq

namespace PodStatus

/-- Nothing is known. -/
def empty : PodStatus :=
  { phase := none, containerStatuses := none }

/-- How a pod fares by some fields. -/
def ofFields (fields : Fields) : PodStatus :=
  { phase := fields.shown? "phase" Decoder.text
    containerStatuses :=
      (fields.records? "containerStatuses").map (List.map ContainerStatus.ofFields) }

end PodStatus

/-- A pod. -/
structure Pod where
  /-- Its metadata. -/
  metadata : Metadata
  /-- What it asks for. -/
  spec : Option PodSpec
  /-- How it fares. -/
  status : Option PodStatus
  /-- All that it asks for and how it fares, in the written form. -/
  content : Fields

namespace Pod

/-- What a pod has besides its metadata. -/
def members : List Member :=
  [.may "spec" Shape.podSpec, .may "status" Shape.podStatus]

instance : Resource Pod where
  kind := .pod
  members := members
  ofParts metadata fields :=
    { metadata
      spec := (fields.record? "spec").map PodSpec.ofFields
      status := (fields.record? "status").map PodStatus.ofFields
      content := fields.written members }

/-- The phase that the pod reports, if any. -/
def phase? (pod : Pod) : Option String :=
  pod.status.bind (·.phase)

/-- The written form. -/
def toJson (pod : Pod) : Json :=
  .obj ([("apiVersion", .str ResourceKind.pod.apiVersion), ("kind", .str ResourceKind.pod.name),
      ("metadata", pod.metadata.toJson)] ++ pod.content)

end Pod

/-- The pods that another object makes. -/
structure PodTemplate where
  /-- What they ask for. -/
  spec : Option PodSpec
deriving DecidableEq

namespace PodTemplate

/-- Nothing is asked for. -/
def empty : PodTemplate :=
  { spec := none }

/-- The template that is made of some fields. -/
def ofFields (fields : Fields) : PodTemplate :=
  { spec := (fields.record? "spec").map PodSpec.ofFields }

/-- The images of the pods' containers. -/
def images (template : PodTemplate) : List String :=
  match template.spec with
  | some spec => Container.images spec.containers
  | none => []

end PodTemplate

end FleetDashboard
