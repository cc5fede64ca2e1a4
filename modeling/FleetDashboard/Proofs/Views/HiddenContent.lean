import FleetDashboard.Proofs.Listing.Related
import FleetDashboard.Proofs.Views.Listing

/-!
# Content that lists do not show

The list of secrets shows nothing of what the secrets hold, and the list of config maps only how
many entries there are. So it is for every query: two servers whose objects differ in their content
only are told apart by no answer, neither by the items nor by their order or number, and by no
filter or sort key. Content is read all the same, and what is said of content that cannot be read
may describe it; the objects of both servers have to be readable.

* `ApiObject.AgreesOutside`: two readable objects that agree on everything except some fields.
* `ApiObject.entryCount`: how many entries the map in a field has.
* `ListView.ShowsAlike`, `ListView.document_congr`: objects that a list shows alike lead to the same
  answer, at the same time and with the same calls.
* `HidesContent`, `ListRequest.hidesContent`: content is not shown.
-/

namespace FleetDashboard

variable {α ρ : Type} {name : String} {object other : ApiObject}

/-! ## Fields -/

/-- A map has as many entries as the object that it is read from has fields. -/
theorem Decoder.length_of_map {item : Decoder α} {fields : Fields} {entries : List (String × α)}
    (h : Decoder.map item (.obj fields) = .ok entries) : entries.length = fields.length := by
  simp only [map, bind_eq_ok_iff, pure_eq_ok_iff] at h
  obtain ⟨unsorted, hunsorted, rfl⟩ := h
  exact (stableSort_perm _ _).length_eq.trans (length_of_mapM_eq_ok hunsorted)

/-- If the same fields are left when those of some names are taken away, every other name leads to
the same. -/
theorem Json.lookup_eq_of_filter_eq {names : List String} {fields others : Fields}
    (h : (others.filter fun field => field.1 ∉ names) = fields.filter fun field => field.1 ∉ names)
    (name : String) (hname : name ∉ names) : Json.lookup name others = Json.lookup name fields := by
  rw [← Json.lookup_filter hname others, h, Json.lookup_filter hname]

/-- What is shown of a field depends on that field only. -/
theorem Fields.shown?_congr {fields others : Fields} (item : Decoder α)
    (h : Json.lookup name others = Json.lookup name fields) :
    others.shown? name item = fields.shown? name item := by
  rw [shown?, shown?, h]

/-- The fields that hold the content of a secret. -/
def Secret.contentFields : List String :=
  ["data", "stringData"]

/-- The fields that hold the content of a config map. -/
def ConfigMap.contentFields : List String :=
  ["data", "binaryData"]

namespace ApiObject

/-- How many entries the map in a field has; none if there is no map. -/
def entryCount (object : ApiObject) (name : String) : Nat :=
  match Json.lookup name object.content with
  | some (.obj entries) => entries.length
  | _ => 0

/-- A map that is shown of a field has the entries of the field. -/
theorem length_of_shown_map [Resource ρ] {value : ρ} {shape : Shape} {item : Decoder α}
    (h : object.value? ρ = some value) (hname : name ∉ TypeFields.names)
    (hmember : (Resource.members ρ).find? (·.name == name) = some (.may name (.map shape)))
    (hitem : ∀ json, shape.Admits json → ∃ value, item json = .ok value) :
    ((object.content.shown? name (Decoder.map item)).getD []).length = object.entryCount name := by
  rw [Fields.shown?, entryCount]
  cases hlookup : Json.lookup name object.content with
  | none => rfl
  | some json =>
    rw [Option.bind_some]
    by_cases hnull : json = .null
    · rw [hnull]
      rfl
    · -- the field is of the type of a map, so all its entries can be read
      have hmap := admits_of_value? h hname hmember hlookup hnull
      obtain ⟨fields, rfl, hfields⟩ := Shape.admits_map_iff.1 hmap
      obtain ⟨entries, hentries⟩ := Decoder.exists_map_eq_ok_iff.2
        ⟨fields, rfl, fun field hfield => hitem _ (hfields field hfield)⟩
      rw [hentries]
      exact Decoder.length_of_map hentries

/-- Two objects that can be read as values of a type and agree on everything except the fields of
some names. -/
structure AgreesOutside (ρ : Type) [Resource ρ] (names : List String) (object other : ApiObject) :
    Prop where
  /-- They keep the same about their types. -/
  typeFields : other.typeFields = object.typeFields
  /-- Their metadata is the same. -/
  metadata : other.metadata = object.metadata
  /-- A field of any other name is the same. -/
  field : ∀ name, name ∉ names → Json.lookup name other.content = Json.lookup name object.content
  /-- The one can be read. -/
  readable : (object.value? ρ).isSome
  /-- So can the other. -/
  otherReadable : (other.value? ρ).isSome

theorem AgreesOutside.failure?_eq [Resource ρ] {names : List String}
    (h : AgreesOutside ρ names object other) : other.failure? ρ = object.failure? ρ := by
  rw [isSome_value?_iff.1 h.readable, isSome_value?_iff.1 h.otherReadable]

end ApiObject

/-- A secret has the metadata of its object, and its type is read from a field of its own. -/
theorem Secret.parts_of_value? {secret : Secret} (h : object.value? Secret = some secret) :
    secret.metadata = object.metadata.wholeSeconds ∧
      secret.secretType = object.content.shown? "type" Decoder.text := by
  obtain ⟨-, rfl⟩ := ApiObject.value?_eq_some_iff.1 h
  exact ⟨rfl, rfl⟩

/-- A config map has the metadata of its object, and as many entries as there are in its fields. -/
theorem ConfigMap.parts_of_value? {configMap : ConfigMap}
    (h : object.value? ConfigMap = some configMap) :
    configMap.metadata = object.metadata.wholeSeconds ∧
      (configMap.data.getD []).length = object.entryCount "data" ∧
      (configMap.binaryData.getD []).length = object.entryCount "binaryData" := by
  have hdata : ((object.content.shown? "data" (Decoder.map Decoder.text)).getD []).length =
      object.entryCount "data" :=
    ApiObject.length_of_shown_map h (by decide) rfl fun _ => exists_bind_pure_eq_ok_iff.1
  have hbinary : ((object.content.shown? "binaryData" (Decoder.map Decoder.bytes)).getD []).length =
      object.entryCount "binaryData" := by
    refine ApiObject.length_of_shown_map h (by decide) rfl fun json hjson => ?_
    obtain ⟨_, hread⟩ := hjson
    obtain ⟨⟨⟩, hbytes, -⟩ := bind_eq_ok_iff.1 hread
    exact discard_eq_ok_iff.1 hbytes
  obtain ⟨-, rfl⟩ := ApiObject.value?_eq_some_iff.1 h
  exact ⟨rfl, hdata, hbinary⟩

/-- Two config maps that agree on everything except keys and values, and have as many entries in
each field. -/
structure ConfigMap.AgreesOutsideEntries (object other : ApiObject) : Prop
    extends object.AgreesOutside ConfigMap ConfigMap.contentFields other where
  /-- They have as many entries. -/
  sizes : ∀ name ∈ ConfigMap.contentFields, other.entryCount name = object.entryCount name

/-! ## Lists that show objects alike -/

namespace ListView

variable {view : ListView} {request : ListRequest} {lister : Lister} {now : Nat}

/-- Two objects that a list shows alike, whatever else is listed. -/
structure ShowsAlike (view : ListView) (object other : ApiObject) : Prop where
  /-- Both can be read, or neither for the same reason. -/
  failure : view.kind.readFailure? other = view.kind.readFailure? object
  /-- They have the same item. -/
  item : ∀ listed others, view.item? others other = view.item? listed object

/-- Among objects that are shown alike the first that cannot be read fails alike. -/
theorem findSome?_of_showsAlike {objects others : List ApiObject}
    (h : List.Forall₂ view.ShowsAlike objects others) :
    others.findSome? view.kind.readFailure? = objects.findSome? view.kind.readFailure? := by
  induction h with
  | nil => rfl
  | cons hobject _ ih => rw [List.findSome?_cons, List.findSome?_cons, hobject.failure, ih]

/-- Objects that are shown alike have the same items. -/
theorem filterMap_of_showsAlike {objects others : List ApiObject}
    (h : List.Forall₂ view.ShowsAlike objects others)
    (listed otherListed : ResourceKind → List ApiObject) :
    others.filterMap (view.item? otherListed) = objects.filterMap (view.item? listed) := by
  induction h with
  | nil => rfl
  | cons hobject _ ih =>
    rw [List.filterMap_cons, List.filterMap_cons, hobject.item listed otherListed, ih]

section OneKind

variable (hsources : view.sources = [view.kind])
include hsources

/-- The list of one kind collects the same from objects that it shows alike. -/
theorem collect_congr {listed others : ResourceKind → List ApiObject}
    (h : List.Forall₂ view.ShowsAlike (listed view.kind) (others view.kind)) :
    view.collect others = view.collect listed := by
  have hfirst : view.firstFailure? others = view.firstFailure? listed := by
    rw [firstFailure?, firstFailure?, hsources, List.findSome?_singleton, List.findSome?_singleton,
      findSome?_of_showsAlike h]
  rw [collect, collect, hfirst, filterMap_of_showsAlike h listed others]

variable (h : (request.outcome now view.kind).Related (List.Forall₂ view.ShowsAlike)
  (lister.outcome request.wanted request.scope now view.kind))
include h

/-- So do all items of the list, or its failure. -/
theorem whole_congr : view.whole { request with lister } now = view.whole request now := by
  have hcollect : view.collect (ListRequest.listed { request with lister } now) =
      view.collect (request.listed now) :=
    collect_congr hsources h.objects
  have houtcome : ListRequest.outcome { request with lister } now view.kind =
      lister.outcome request.wanted request.scope now view.kind := rfl
  rw [whole, whole, hsources, hcollect, List.map_singleton, List.map_singleton, houtcome]
  -- gathering fails for both servers or for neither
  generalize request.outcome now view.kind = outcome at h
  generalize lister.outcome request.wanted request.scope now view.kind = other at h
  cases h with
  | error failure => rfl
  | ok _ => rfl

/-- The page is the same, and so are its warnings. -/
theorem page_value_congr :
    (view.page { request with lister } now).value = (view.page request now).value := by
  have hfailures : view.failures { request with lister } now = view.failures request now := by
    have hfailure : (ListRequest.outcome { request with lister } now view.kind).failure? =
        (request.outcome now view.kind).failure? := h.failure?_eq
    rw [failures, failures, hsources, List.filterMap_cons, List.filterMap_cons, hfailure]
    rfl
  -- the query is the same, and the page depends on nothing else
  rw [page_value_eq, page_value_eq, whole_congr hsources h, hfailures]
  rfl

end OneKind

/-- The answer is the same, at the same time and with the same calls. -/
theorem document_congr (hsources : view.sources = [view.kind])
    (h : (request.lister.list view.kind request.wanted).Related
      (Reply.Related (List.Forall₂ view.ShowsAlike)) (lister.list view.kind request.wanted)) :
    view.document { request with lister } now = view.document request now := by
  ext1
  · rw [document_eq, document_eq]
    exact congrArg (Except.map ListPage.toJson)
      (page_value_congr hsources (Lister.related_outcome h request.scope now))
  · rw [document_finish, document_finish, hsources]
    exact Lister.gather_finish_of_related h request.scope now
  · rw [document_log, document_log]

/-- Objects that are read as values with one item are shown alike by the list of those items. -/
theorem showsAlike_of_item [Resource ρ] {names : List String} (toItem : ρ → view.Shown)
    (hread : view.kind.readFailure? = ApiObject.failure? ρ)
    (hitem : ∀ listed object, view.item? listed object = (object.value? ρ).map toItem)
    (h : object.AgreesOutside ρ names other)
    (hsame : ∀ value otherValue, object.value? ρ = some value →
      other.value? ρ = some otherValue → toItem otherValue = toItem value) :
    view.ShowsAlike object other := by
  -- both can be read, so it is their items that count
  obtain ⟨value, hvalue⟩ := Option.isSome_iff_exists.1 h.readable
  obtain ⟨otherValue, hother⟩ := Option.isSome_iff_exists.1 h.otherReadable
  refine ⟨?_, fun listed others => ?_⟩
  · rw [hread]
    exact h.failure?_eq
  · rw [hitem, hitem, hvalue, hother, Option.map_some, Option.map_some,
      hsame value otherValue hvalue hother]

/-- Secrets that differ in their content only are shown alike. -/
theorem showsAlike_secrets (h : object.AgreesOutside Secret Secret.contentFields other) :
    ListView.secrets.ShowsAlike object other := by
  refine showsAlike_of_item SecretItem.ofSecret rfl (fun _ _ => rfl) h fun secret otherSecret
    hsecret hother => ?_
  obtain ⟨hmetadata, htype⟩ := Secret.parts_of_value? hsecret
  obtain ⟨hotherMetadata, hotherType⟩ := Secret.parts_of_value? hother
  -- the type stands in a field outside of the content
  have hsameType : otherSecret.secretType = secret.secretType := by
    rw [hotherType, Fields.shown?_congr _ (h.field "type" (by decide)), htype]
  rw [SecretItem.ofSecret, SecretItem.ofSecret, hotherMetadata, hmetadata, h.metadata, hsameType]

/-- So are config maps that differ in keys and values only. -/
theorem showsAlike_configMaps (h : ConfigMap.AgreesOutsideEntries object other) :
    ListView.configMaps.ShowsAlike object other := by
  refine showsAlike_of_item ConfigMapItem.ofConfigMap rfl (fun _ _ => rfl) h.toAgreesOutside
    fun configMap otherMap hconfigMap hother => ?_
  obtain ⟨hmetadata, hdata, hbinary⟩ := ConfigMap.parts_of_value? hconfigMap
  obtain ⟨hotherMetadata, hotherData, hotherBinary⟩ := ConfigMap.parts_of_value? hother
  rw [ConfigMapItem.ofConfigMap, ConfigMapItem.ofConfigMap, hotherMetadata, hmetadata, h.metadata,
    hotherData, hotherBinary, hdata, hbinary, h.sizes "data" (by decide),
    h.sizes "binaryData" (by decide)]

end ListView

/-! ## Content -/

/-- What it means that the lists of secrets and config maps do not show content: the same is
answered by another server whose objects differ in it only. -/
structure HidesContent (request : ListRequest) (lister : Lister) (now : Nat) : Prop where
  /-- Of secrets nothing is shown of what they hold. -/
  secrets :
    (request.lister.list .secret request.wanted).Related
        (Reply.Related (List.Forall₂ (ApiObject.AgreesOutside Secret Secret.contentFields)))
        (lister.list .secret request.wanted) →
      ListView.secrets.document { request with lister } now = ListView.secrets.document request now
  /-- Of config maps the number of entries is shown, but neither keys nor values. -/
  configMaps :
    (request.lister.list .configMap request.wanted).Related
        (Reply.Related (List.Forall₂ ConfigMap.AgreesOutsideEntries))
        (lister.list .configMap request.wanted) →
      ListView.configMaps.document { request with lister } now =
        ListView.configMaps.document request now

/-- The lists of secrets and config maps do not show content, whatever is asked for. -/
theorem ListRequest.hidesContent (request : ListRequest) (lister : Lister) (now : Nat) :
    HidesContent request lister now where
  secrets h :=
    ListView.document_congr rfl (h.imp_objects fun _ _ => ListView.showsAlike_secrets)
  configMaps h :=
    ListView.document_congr rfl (h.imp_objects fun _ _ => ListView.showsAlike_configMaps)

/-- An object of a name with some fields. -/
def storedFields (name : String) (fields : Fields) : ApiObject :=
  { typeFields := [], metadata := { Metadata.empty with name := some name }, content := fields }

/-- A server with two secrets and a config map, which hold a password and a key. -/
def contentServer (password key : String) : Lister :=
  { list := fun kind _ => .after 5 <| .answer <|
      if kind = .secret then
        [storedFields "web" [("type", .str "Opaque"), ("data", .obj [("password", .str password)])],
          storedFields "db" [("stringData", .obj [(key, .str "on")]), ("type", .str "Opaque")]]
      else [storedFields "app" [("data", .obj [("mode", .str password), (key, .str "on")])]]
    get := fun _ _ _ => .never }

/-- What is of type `Opaque`, by password, by a key of the content and by name. -/
def contentRequest (password key : String) : ListRequest :=
  { lister := contentServer password key
    wanted := .all
    query :=
      { filters := [⟨.typeName, "Opaque"⟩]
        sorts := [⟨.other "password", true⟩, ⟨.label key, false⟩, ⟨.objectName, true⟩]
        page := { size := 0, number := 1 } }
    scope := .lasting 0 1000
    pageCap := 10 }

/-- Two servers with different passwords and keys are answered alike. -/
theorem hidesContent_twoServers :
    let request := contentRequest "aHVudGVyMg==" "user"
    let lister := contentServer "" "owner"
    (request.lister.list .secret request.wanted).Related
        (Reply.Related (List.Forall₂ (ApiObject.AgreesOutside Secret Secret.contentFields)))
        (lister.list .secret request.wanted) ∧
      (request.lister.list .configMap request.wanted).Related
        (Reply.Related (List.Forall₂ ConfigMap.AgreesOutsideEntries))
        (lister.list .configMap request.wanted) ∧
      ListView.secrets.document { request with lister } 0 = ListView.secrets.document request 0 ∧
      ListView.configMaps.document { request with lister } 0 =
        ListView.configMaps.document request 0 ∧
      (listSecrets request 0).value.toOption.map (fun page => page.items.map (·.summary.name)) =
        some ["db", "web"] := by
  intro request lister
  have hsecrets : (request.lister.list .secret request.wanted).Related
      (Reply.Related (List.Forall₂ (ApiObject.AgreesOutside Secret Secret.contentFields)))
      (lister.list .secret request.wanted) := by
    refine .after 5 (.answer (.cons ?_ (.cons ?_ .nil)))
    · exact ⟨rfl, rfl, Json.lookup_eq_of_filter_eq rfl, by decide +kernel, by decide +kernel⟩
    · exact ⟨rfl, rfl, Json.lookup_eq_of_filter_eq rfl, by decide +kernel, by decide +kernel⟩
  have hconfigMaps : (request.lister.list .configMap request.wanted).Related
      (Reply.Related (List.Forall₂ ConfigMap.AgreesOutsideEntries))
      (lister.list .configMap request.wanted) := by
    refine .after 5 (.answer (.cons ?_ .nil))
    refine ⟨⟨rfl, rfl, Json.lookup_eq_of_filter_eq rfl, by decide +kernel, by decide +kernel⟩, ?_⟩
    decide
  have hhides := request.hidesContent lister 0
  exact ⟨hsecrets, hconfigMaps, hhides.secrets hsecrets, hhides.configMaps hconfigMaps,
    by decide +kernel⟩

/-- What is said of content that cannot be read may show it. -/
example :
    let object : ApiObject :=
      { typeFields := [], metadata := .empty, content := [("stringData", .str "hunter2")] }
    (object.failure? Secret).map (·.reason) =
      some "invalid type: string \"hunter2\", expected a map" := by
  decide +kernel

end FleetDashboard
