import FleetDashboard.Kubernetes.Metadata

/-!
# Shapes of volumes

What pods can mount, with every field of it. Names of other objects are always written, also where
they need not be given.

* `Shape.labelSelector`, `Shape.localReference`, `Shape.keySelector`, `Shape.fieldSelector`: how
  other objects and parts of them are named.
* `Shape.volume`: a volume of any of the sources.
-/

namespace FleetDashboard.Shape

open Member (may must)

/-! ## References and selectors -/

/-- Requirements on labels. -/
def labelSelectorRequirement : Shape :=
  record "LabelSelectorRequirement" [must "key" text, must "operator" text, may "values" texts]

/-- Selectors of objects by their labels. -/
def labelSelector : Shape :=
  record "LabelSelector" [
    may "matchExpressions" (list labelSelectorRequirement), may "matchLabels" textMap]

/-- Objects in the same namespace. -/
def localReference : Shape :=
  record "LocalObjectReference" [must "name" text]

/-- Keys of objects that may be missing. -/
def keySelector (type : String) : Shape :=
  record type [must "key" text, must "name" text, may "optional" boolean]

/-- Fields of the pod itself. -/
def fieldSelector : Shape :=
  record "ObjectFieldSelector" [may "apiVersion" text, must "fieldPath" text]

/-- What a container of the pod may use. -/
def resourceFieldSelector : Shape :=
  record "ResourceFieldSelector" [
    may "containerName" text, may "divisor" quantity, must "resource" text]

/-! ## Files -/

/-- Keys of an object as files. -/
def keyToPath : Shape :=
  record "KeyToPath" [must "key" text, may "mode" int32, must "path" text]

/-- Fields of the pod itself as files. -/
def downwardFile : Shape :=
  record "DownwardAPIVolumeFile" [
    may "fieldRef" fieldSelector, may "mode" int32, must "path" text,
    may "resourceFieldRef" resourceFieldSelector]

/-- Keys of an object that may be missing, as files of a common volume. -/
def keysProjection (type : String) : Shape :=
  record type [may "items" (list keyToPath), must "name" text, may "optional" boolean]

/-- Certificates of signers as files. -/
def trustBundleProjection : Shape :=
  record "ClusterTrustBundleProjection" [
    may "labelSelector" labelSelector, may "name" text, may "optional" boolean, must "path" text,
    may "signerName" text]

/-- Fields of the pod itself as files of a common volume. -/
def downwardProjection : Shape :=
  record "DownwardAPIProjection" [may "items" (list downwardFile)]

/-- A token of the pod's account as a file. -/
def tokenProjection : Shape :=
  record "ServiceAccountTokenProjection" [
    may "audience" text, may "expirationSeconds" int64, must "path" text]

/-- The parts of a common volume. -/
def volumeProjection : Shape :=
  record "VolumeProjection" [
    may "clusterTrustBundle" trustBundleProjection,
    may "configMap" (keysProjection "ConfigMapProjection"), may "downwardAPI" downwardProjection,
    may "secret" (keysProjection "SecretProjection"), may "serviceAccountToken" tokenProjection]

/-! ## Claims -/

/-- How much storage is wanted. -/
def storageRequirements : Shape :=
  record "VolumeResourceRequirements" [may "limits" quantities, may "requests" quantities]

/-- The object in the same namespace that a claim is filled from. -/
def typedLocalReference : Shape :=
  record "TypedLocalObjectReference" [may "apiGroup" text, must "kind" text, must "name" text]

/-- The object that a claim is filled from. -/
def typedReference : Shape :=
  record "TypedObjectReference" [
    may "apiGroup" text, must "kind" text, must "name" text, may "namespace" text]

/-- What a claim asks for. -/
def volumeClaimSpec : Shape :=
  record "PersistentVolumeClaimSpec" [
    may "accessModes" texts, may "dataSource" typedLocalReference,
    may "dataSourceRef" typedReference, may "resources" storageRequirements,
    may "selector" labelSelector, may "storageClassName" text,
    may "volumeAttributesClassName" text, may "volumeMode" text, may "volumeName" text]

/-- Claims that live as long as the pod. -/
def volumeClaimTemplate : Shape :=
  record "PersistentVolumeClaimTemplate" [may "metadata" objectMeta, must "spec" volumeClaimSpec]

/-! ## Sources -/

/-- Disks of a provider that are named by an id. -/
def awsElasticBlockStore : Shape :=
  record "AWSElasticBlockStoreVolumeSource" [
    may "fsType" text, may "partition" int32, may "readOnly" boolean, must "volumeID" text]

/-- Disks of a provider that are named by an address. -/
def azureDisk : Shape :=
  record "AzureDiskVolumeSource" [
    may "cachingMode" text, must "diskName" text, must "diskURI" text, may "fsType" text,
    may "kind" text, may "readOnly" boolean]

/-- Shares of a provider. -/
def azureFile : Shape :=
  record "AzureFileVolumeSource" [
    may "readOnly" boolean, must "secretName" text, must "shareName" text]

/-- File systems that are spread over monitored hosts. -/
def cephFS : Shape :=
  record "CephFSVolumeSource" [
    must "monitors" texts, may "path" text, may "readOnly" boolean, may "secretFile" text,
    may "secretRef" localReference, may "user" text]

/-- Volumes of a private cloud. -/
def cinder : Shape :=
  record "CinderVolumeSource" [
    may "fsType" text, may "readOnly" boolean, may "secretRef" localReference,
    must "volumeID" text]

/-- Config maps as files. -/
def configMapSource : Shape :=
  record "ConfigMapVolumeSource" [
    may "defaultMode" int32, may "items" (list keyToPath), must "name" text,
    may "optional" boolean]

/-- Volumes of storage drivers. -/
def csi : Shape :=
  record "CSIVolumeSource" [
    must "driver" text, may "fsType" text, may "nodePublishSecretRef" localReference,
    may "readOnly" boolean, may "volumeAttributes" textMap]

/-- Fields of the pod itself as a volume. -/
def downwardSource : Shape :=
  record "DownwardAPIVolumeSource" [may "defaultMode" int32, may "items" (list downwardFile)]

/-- Directories that start empty. -/
def emptyDir : Shape :=
  record "EmptyDirVolumeSource" [may "medium" text, may "sizeLimit" quantity]

/-- Claims that are made for the pod. -/
def ephemeral : Shape :=
  record "EphemeralVolumeSource" [may "volumeClaimTemplate" volumeClaimTemplate]

/-- Disks on a fibre channel. -/
def fibreChannel : Shape :=
  record "FCVolumeSource" [
    may "fsType" text, may "lun" int32, may "readOnly" boolean, may "targetWWNs" texts,
    may "wwids" texts]

/-- Volumes of plugins. -/
def flexVolume : Shape :=
  record "FlexVolumeSource" [
    must "driver" text, may "fsType" text, may "options" textMap, may "readOnly" boolean,
    may "secretRef" localReference]

/-- Data sets. -/
def flocker : Shape :=
  record "FlockerVolumeSource" [may "datasetName" text, may "datasetUUID" text]

/-- Disks of a provider that are named by a name. -/
def gcePersistentDisk : Shape :=
  record "GCEPersistentDiskVolumeSource" [
    may "fsType" text, may "partition" int32, must "pdName" text, may "readOnly" boolean]

/-- Repositories. -/
def gitRepo : Shape :=
  record "GitRepoVolumeSource" [
    may "directory" text, must "repository" text, may "revision" text]

/-- File systems that are found through endpoints. -/
def glusterfs : Shape :=
  record "GlusterfsVolumeSource" [
    must "endpoints" text, must "path" text, may "readOnly" boolean]

/-- Paths of the node. -/
def hostPath : Shape :=
  record "HostPathVolumeSource" [must "path" text, may "type" text]

/-- Images. -/
def imageSource : Shape :=
  record "ImageVolumeSource" [may "pullPolicy" text, may "reference" text]

/-- Disks behind a portal. -/
def iscsi : Shape :=
  record "ISCSIVolumeSource" [
    may "chapAuthDiscovery" boolean, may "chapAuthSession" boolean, may "fsType" text,
    may "initiatorName" text, must "iqn" text, may "iscsiInterface" text, must "lun" int32,
    may "portals" texts, may "readOnly" boolean, may "secretRef" localReference,
    must "targetPortal" text]

/-- Paths of a file server. -/
def nfs : Shape :=
  record "NFSVolumeSource" [must "path" text, may "readOnly" boolean, must "server" text]

/-- Claims that exist. -/
def volumeClaimSource : Shape :=
  record "PersistentVolumeClaimVolumeSource" [must "claimName" text, may "readOnly" boolean]

/-- Disks of a controller. -/
def photonPersistentDisk : Shape :=
  record "PhotonPersistentDiskVolumeSource" [may "fsType" text, must "pdID" text]

/-- Volumes that are pooled over servers. -/
def portworxVolume : Shape :=
  record "PortworxVolumeSource" [
    may "fsType" text, may "readOnly" boolean, must "volumeID" text]

/-- Several parts in one volume. -/
def projected : Shape :=
  record "ProjectedVolumeSource" [
    may "defaultMode" int32, may "sources" (list volumeProjection)]

/-- Volumes that are found through a registry. -/
def quobyte : Shape :=
  record "QuobyteVolumeSource" [
    may "group" text, may "readOnly" boolean, must "registry" text, may "tenant" text,
    may "user" text, must "volume" text]

/-- Images that are spread over monitored hosts. -/
def rbd : Shape :=
  record "RBDVolumeSource" [
    may "fsType" text, must "image" text, may "keyring" text, must "monitors" texts,
    may "pool" text, may "readOnly" boolean, may "secretRef" localReference, may "user" text]

/-- Volumes behind a gateway. -/
def scaleIO : Shape :=
  record "ScaleIOVolumeSource" [
    may "fsType" text, must "gateway" text, may "protectionDomain" text, may "readOnly" boolean,
    must "secretRef" localReference, may "sslEnabled" boolean, may "storageMode" text,
    may "storagePool" text, must "system" text, may "volumeName" text]

/-- Secrets as files. -/
def secretSource : Shape :=
  record "SecretVolumeSource" [
    may "defaultMode" int32, may "items" (list keyToPath), may "optional" boolean,
    may "secretName" text]

/-- Volumes of storage that runs in the cluster. -/
def storageOS : Shape :=
  record "StorageOSVolumeSource" [
    may "fsType" text, may "readOnly" boolean, may "secretRef" localReference,
    may "volumeName" text, may "volumeNamespace" text]

/-- Disks of virtual machines. -/
def vsphereVolume : Shape :=
  record "VsphereVirtualDiskVolumeSource" [
    may "fsType" text, may "storagePolicyID" text, may "storagePolicyName" text,
    must "volumePath" text]

/-- Volumes. -/
def volume : Shape :=
  record "Volume" [
    may "awsElasticBlockStore" awsElasticBlockStore, may "azureDisk" azureDisk,
    may "azureFile" azureFile, may "cephfs" cephFS, may "cinder" cinder,
    may "configMap" configMapSource, may "csi" csi, may "downwardAPI" downwardSource,
    may "emptyDir" emptyDir, may "ephemeral" ephemeral, may "fc" fibreChannel,
    may "flexVolume" flexVolume, may "flocker" flocker,
    may "gcePersistentDisk" gcePersistentDisk, may "gitRepo" gitRepo, may "glusterfs" glusterfs,
    may "hostPath" hostPath, may "image" imageSource, may "iscsi" iscsi, must "name" text,
    may "nfs" nfs, may "persistentVolumeClaim" volumeClaimSource,
    may "photonPersistentDisk" photonPersistentDisk, may "portworxVolume" portworxVolume,
    may "projected" projected, may "quobyte" quobyte, may "rbd" rbd, may "scaleIO" scaleIO,
    may "secret" secretSource, may "storageos" storageOS, may "vsphereVolume" vsphereVolume]

end FleetDashboard.Shape
