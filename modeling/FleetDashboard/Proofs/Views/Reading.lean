import FleetDashboard.Proofs.Kubernetes.Shape
import FleetDashboard.Views.Catalogue

/-!
# Reading the objects of a listing

Every object of a listing is read as a value of its type. Either all of them can be read, or the
first one that cannot be decides why the listing fails. An object can be read exactly if every field
of it is of the right type, those that are not shown included. What is read keeps the metadata of
its object, except that times are cut to whole seconds.

* `ApiObject.value?`, `ApiObject.failure?`: an object as a value of a type, or why it is none.
* `ApiObject.Fits`, `ApiObject.isSome_value?_iff_fits`: which objects can be read.
* `Pod.spec_of_value?`: nothing of what is shown of a pod gets lost between reading and showing.
* `Lists.read_eq`: all objects of a kind are read, or the first one that cannot be decides.
* `KeepsMetadata`: the types whose values keep the metadata that they are made of.
* `metadata_of_value?`: what is read has the metadata of its object, with times in whole seconds.
-/

namespace FleetDashboard

variable {ρ : Type} [Resource ρ] {object : ApiObject} {value : ρ}

namespace ApiObject

/-- The object as a value of a type, if it can be read. -/
def value? (ρ : Type) [Resource ρ] (object : ApiObject) : Option ρ :=
  (object.read : Except ReadFailure ρ).toOption

/-- Why the object cannot be read as a value of a type. -/
def failure? (ρ : Type) [Resource ρ] (object : ApiObject) : Option ReadFailure :=
  match (object.read : Except ReadFailure ρ) with
  | .ok _ => none
  | .error failure => some failure

/-- An object can be read unless there is a failure. -/
theorem isSome_value?_iff : (object.value? ρ).isSome ↔ object.failure? ρ = none := by
  rw [value?, failure?]
  cases (object.read : Except ReadFailure ρ) with
  | ok value => exact iff_of_true rfl rfl
  | error failure => exact iff_of_false nofun nofun

/-- What is read is made of the metadata and the fields of an object that is gone through. -/
theorem value?_eq_some_iff :
    object.value? ρ = some value ↔
      TypeFields.scan (Resource.kind ρ).apiVersion (Resource.kind ρ).name (Resource.members ρ)
          object.fields = .ok () ∧
        Resource.ofParts object.metadata.wholeSeconds object.content = value := by
  rw [value?, toOption_eq_some_iff, read, mapError_eq_ok_iff, bind_eq_ok_iff]
  simp only [pure_eq_ok_iff]
  constructor
  · rintro ⟨⟨⟩, hscan, hparts⟩
    exact ⟨hscan, hparts⟩
  · rintro ⟨hscan, hparts⟩
    exact ⟨(), hscan, hparts⟩

/-- The fields that are read are those about the type that are kept and the others of the object. -/
theorem mem_fields_iff {field : String × Json} :
    field ∈ object.fields ↔
      field ∈ object.typeFields ∨ field ∈ object.content ∧ field.1 ∉ TypeFields.names := by
  rw [fields, Json.sortFields, (stableSort_perm _ _).mem_iff, List.mem_append, List.mem_filter,
    decide_eq_true_eq]

/-- Every field of an object is of its type: those about the type of the object are what is wanted,
and so is each of the others that objects of the kind have. -/
def Fits (object : ApiObject) (kind : ResourceKind) (members : List Member) : Prop :=
  (∀ field ∈ object.fields, field.1 ∈ TypeFields.names →
      field.2 = .str (TypeFields.wanted kind.apiVersion kind.name field.1)) ∧
    Member.Fits members (object.fields.filter fun field => field.1 ∉ TypeFields.names)

/-- An object can be read exactly if every field of it is of its type. -/
theorem isSome_value?_iff_fits :
    (object.value? ρ).isSome ↔ object.Fits (Resource.kind ρ) (Resource.members ρ) := by
  rw [Fits, ← TypeFields.scan_eq_ok_iff]
  simp only [Option.isSome_iff_exists, value?_eq_some_iff, exists_and_left, exists_eq', and_true]

/-- A field that is not shown counts as well. -/
example :
    let object : ApiObject :=
      { typeFields := [], metadata := .empty
        content := [("spec", .obj [("containers", .arr []), ("volumes", .str "none")])] }
    (object.failure? Pod).map (·.reason) =
      some "invalid type: string \"none\", expected a sequence" := by
  decide +kernel

/-- Of what can be read the fields that the type has are of their types. -/
theorem fits_of_value? (h : object.value? ρ = some value) :
    Member.Fits (Resource.members ρ)
      (object.content.filter fun field => field.1 ∉ TypeFields.names) := by
  obtain ⟨hscan, -⟩ := value?_eq_some_iff.1 h
  intro field hfield
  obtain ⟨hcontent, hname⟩ := List.mem_filter.1 hfield
  have hmem : field ∈ object.fields :=
    mem_fields_iff.2 (Or.inr ⟨hcontent, of_decide_eq_true hname⟩)
  exact (TypeFields.scan_eq_ok_iff.1 hscan).2 field (List.mem_filter.2 ⟨hmem, hname⟩)

/-- What is found in such a field is of its type, unless it is null. -/
theorem admits_of_value? {name : String} {member : Member} {json : Json}
    (h : object.value? ρ = some value) (hname : name ∉ TypeFields.names)
    (hmember : (Resource.members ρ).find? (·.name == name) = some member)
    (hlookup : Json.lookup name object.content = some json) (hjson : json ≠ .null) :
    member.shape.Admits json :=
  (fits_of_value? h).admits hmember ((Json.lookup_filter hname _).trans hlookup) hjson

end ApiObject

/-- A pod that can be read asks for what its object says it does: that is a record, and all the
containers in it are shown. -/
theorem Pod.spec_of_value? {pod : Pod} {json : Json} (h : object.value? Pod = some pod)
    (hlookup : Json.lookup "spec" object.content = some json) (hjson : json ≠ .null) :
    ∃ fields, json = .obj fields ∧ pod.spec = some (.ofFields fields) ∧
      ∀ containers, Json.lookup "containers" fields = some containers → containers ≠ .null →
        ∃ records : List Fields, containers = .arr (records.map Json.obj) ∧
          (PodSpec.ofFields fields).containers = records.map Container.ofFields ∧
          ∀ record ∈ records, Shape.container.Admits (.obj record) := by
  -- every field was read before anything was picked, so no default stands in for what is there
  have hspec : Shape.podSpec.Admits json :=
    ApiObject.admits_of_value? h (by decide) rfl hlookup hjson
  obtain ⟨fields, rfl, hfits⟩ := Shape.admits_record_iff.1 hspec
  refine ⟨fields, rfl, ?_, fun containers hcontainers hgiven => ?_⟩
  · obtain ⟨-, rfl⟩ := ApiObject.value?_eq_some_iff.1 h
    change (object.content.record? "spec").map PodSpec.ofFields = _
    rw [Fields.record?, hlookup, Option.map_some]
  · have hlist : (Shape.list Shape.container).Admits containers :=
      hfits.admits rfl hcontainers hgiven
    obtain ⟨records, hrecords, hpicked, hfit⟩ := Fields.records?_of_admits hlist hcontainers
    refine ⟨records, hrecords, ?_, fun record hrecord => ?_⟩
    · rw [PodSpec.ofFields, hpicked, Option.getD_some]
    · exact Shape.admits_record_iff.2 ⟨record, rfl, hfit record hrecord⟩

/-! ## Whole listings -/

/-- The first failure decides; without one all objects are read, in their order. -/
theorem readAll_eq (ρ : Type) [Resource ρ] (objects : List ApiObject) :
    (readAll objects : Except ReadFailure (List ρ)) =
      match objects.findSome? (ApiObject.failure? ρ) with
      | some failure => .error failure
      | none => .ok (objects.filterMap (ApiObject.value? ρ)) := by
  rw [readAll]
  induction objects with
  | nil => rfl
  | cons object rest ih =>
    rw [List.mapM_cons, ih, List.findSome?_cons, List.filterMap_cons, ApiObject.failure?,
      ApiObject.value?]
    cases (object.read : Except ReadFailure ρ) with
    | error failure => rfl
    | ok value =>
      dsimp only
      cases rest.findSome? (ApiObject.failure? ρ) with
      | some failure => rfl
      | none => rfl

/-- The objects of a kind are read in the same way. -/
theorem Lists.read_eq (lists : Lists) :
    (lists.read : ViewResult (List ρ)) =
      match (lists.objects (Resource.kind ρ)).findSome? (ApiObject.failure? ρ) with
      | some failure => .error (.ofReadFailure failure)
      | none => .ok ((lists.objects (Resource.kind ρ)).filterMap (ApiObject.value? ρ)) := by
  rw [Lists.read, readAll_eq]
  cases (lists.objects (Resource.kind ρ)).findSome? (ApiObject.failure? ρ) with
  | some failure => rfl
  | none => rfl

/-! ## Metadata -/

/-- The values of a type have metadata, and it is what they are made of. -/
class KeepsMetadata (ρ : Type) [Resource ρ] where
  /-- The metadata of a value. -/
  metadata : ρ → Metadata
  /-- It is what the value is made of. -/
  metadata_ofParts : ∀ (given : Metadata) (fields : Fields),
    metadata (Resource.ofParts given fields) = given

instance : KeepsMetadata NamespaceObject where
  metadata := NamespaceObject.metadata
  metadata_ofParts _ _ := rfl

instance : KeepsMetadata Pod where
  metadata := Pod.metadata
  metadata_ofParts _ _ := rfl

instance : KeepsMetadata Deployment where
  metadata := Deployment.metadata
  metadata_ofParts _ _ := rfl

instance : KeepsMetadata ReplicaSet where
  metadata := ReplicaSet.metadata
  metadata_ofParts _ _ := rfl

instance : KeepsMetadata CronJob where
  metadata := CronJob.metadata
  metadata_ofParts _ _ := rfl

instance : KeepsMetadata Secret where
  metadata := Secret.metadata
  metadata_ofParts _ _ := rfl

instance : KeepsMetadata ConfigMap where
  metadata := ConfigMap.metadata
  metadata_ofParts _ _ := rfl

/-- What is read has the metadata of its object, with times in whole seconds. -/
theorem metadata_of_value? [KeepsMetadata ρ] (h : object.value? ρ = some value) :
    KeepsMetadata.metadata value = object.metadata.wholeSeconds := by
  obtain ⟨-, rfl⟩ := ApiObject.value?_eq_some_iff.1 h
  exact KeepsMetadata.metadata_ofParts _ _

end FleetDashboard
