import FleetDashboard.Proofs.Selection.Order
import FleetDashboard.Views.Catalogue

/-!
# Sorting what is shown

Whatever the name of a property, the items of one list hold values of one variety under it. So
every list of sort keys puts them into a consistent order, and values of different varieties never
have to be compared by their texts.

* `ListView.Shown`: the items of a list.
* `ListView.variety`: the variety of a property on the items of a list.
* `Sortable`: items are in a total preorder under any sort keys.
* `ListView.sortable`: the items of every list are.
-/

namespace FleetDashboard

open Selection (Property Value HasProperties SortKey orderBy OneVariety)

/-- Any sort keys put the items into a total preorder, and no property holds values of different
varieties. -/
structure Sortable (α : Type) [HasProperties α] : Prop where
  /-- Comparing in reverse reverses the answer. -/
  swap : ∀ (keys : List SortKey) (a b : α), (orderBy keys a b).swap = orderBy keys b a
  /-- What is at most something is at most what that is at most. -/
  trans : ∀ (keys : List SortKey) (a b c : α),
    (orderBy keys a b).isLE → (orderBy keys b c).isLE → (orderBy keys a c).isLE
  /-- Tied items compare alike with every item, so ties are transitive. -/
  tied : ∀ (keys : List SortKey) (a b c : α),
    orderBy keys a b = .eq → orderBy keys a c = orderBy keys b c
  /-- Two values of one property are of one variety. -/
  variety : ∀ (property : Property) (a b : α),
    ∀ x ∈ Selection.property? a property, ∀ y ∈ Selection.property? b property,
      x.variety = y.variety

/-- Items are sortable if each property determines the variety of its values. -/
theorem Sortable.ofVariety {α : Type} [HasProperties α] (varietyOf : Property → Value.Variety)
    (h : ∀ (a : α) (property : Property), ∀ x ∈ Selection.property? a property,
      x.variety = varietyOf property) : Sortable α := by
  have hvar (property : Property) : OneVariety property (Set.univ : Set α) :=
    fun a _ b _ x hx y hy => (h a property x hx).trans (h b property y hy).symm
  have hpreorder (keys : List SortKey) : IsPreorderOn (orderBy keys) (Set.univ : Set α) :=
    Selection.isPreorderOn_orderBy fun key _ => hvar key.property
  refine ⟨fun keys a b => ?_, fun keys a b c => ?_, fun keys a b c => ?_, fun property a b => ?_⟩
  · exact Selection.orderBy_swap keys a b
  · exact (hpreorder keys).trans trivial trivial trivial
  · exact (hpreorder keys).eq_of_eq trivial trivial trivial
  · exact hvar property a trivial b trivial

namespace ListView

/-- The items of a list. -/
def Shown : ListView → Type
  | .secrets => SecretItem
  | .configMaps => ConfigMapItem
  | .cronJobs => CronJobItem
  | .deployments => DeploymentItem
  | .namespaces => NamespaceItem
  | .pods => PodItem
  | .replicaSets => ReplicaSetItem

instance (view : ListView) : Item view.Shown :=
  match view with
  | .secrets => inferInstanceAs (Item SecretItem)
  | .configMaps => inferInstanceAs (Item ConfigMapItem)
  | .cronJobs => inferInstanceAs (Item CronJobItem)
  | .deployments => inferInstanceAs (Item DeploymentItem)
  | .namespaces => inferInstanceAs (Item NamespaceItem)
  | .pods => inferInstanceAs (Item PodItem)
  | .replicaSets => inferInstanceAs (Item ReplicaSetItem)

/-- The properties of a list that hold whole numbers. -/
def figures : ListView → List Property
  | .cronJobs => [.other "active"]
  | .pods => [.other "restarts"]
  | .replicaSets => [.other "replicas"]
  | _ => []

/-- The variety of a property: a moment for the time of creation, a whole number for a figure, and
text for all others. -/
def variety (view : ListView) (property : Property) : Value.Variety :=
  if property = .created then .moment
  else if property ∈ view.figures then .whole
  else .text

theorem variety_created (view : ListView) : view.variety .created = .moment :=
  if_pos rfl

/-- The properties of the metadata are no figures. -/
theorem variety_of_mem_summary (view : ListView) {summary : ObjectSummary} {property : Property}
    {x : Value} (h : x ∈ summary.property? property) : x.variety = view.variety property := by
  cases property with
  | created =>
    obtain ⟨t, -, rfl⟩ := Option.map_eq_some_iff.1 h
    exact (variety_created view).symm
  | objectName =>
    cases h
    cases view <;> rfl
  | objectNamespace =>
    cases h
    cases view <;> rfl
  | label key =>
    obtain ⟨value, -, rfl⟩ := Option.map_eq_some_iff.1 h
    cases view <;> rfl
  | _ => cases h

theorem variety_of_mem (view : ListView) (item : view.Shown) (property : Property) {x : Value}
    (h : x ∈ Selection.property? item property) : x.variety = view.variety property := by
  -- by what each item adds to its metadata
  cases view with
  | secrets =>
    change x ∈ SecretItem.property? item property at h
    unfold SecretItem.property? at h
    split at h
    · cases h; rfl
    · cases h; rfl
    · exact variety_of_mem_summary _ h
  | configMaps =>
    change x ∈ ConfigMapItem.property? item property at h
    unfold ConfigMapItem.property? at h
    split at h
    · cases h; rfl
    · exact variety_of_mem_summary _ h
  | cronJobs =>
    change x ∈ CronJobItem.property? item property at h
    unfold CronJobItem.property? at h
    split at h
    · cases h; rfl
    · cases h; rfl
    · cases h; rfl
    · exact variety_of_mem_summary _ h
  | deployments =>
    change x ∈ DeploymentItem.property? item property at h
    unfold DeploymentItem.property? at h
    split at h
    · cases h; rfl
    · cases h; rfl
    · exact variety_of_mem_summary _ h
  | namespaces =>
    change x ∈ NamespaceItem.property? item property at h
    unfold NamespaceItem.property? at h
    split at h
    · cases h; rfl
    · cases h; rfl
    · exact variety_of_mem_summary _ h
  | pods =>
    change x ∈ PodItem.property? item property at h
    unfold PodItem.property? at h
    split at h
    · cases h; rfl
    · cases h; rfl
    · cases h; rfl
    · cases h; rfl
    · exact variety_of_mem_summary _ h
  | replicaSets =>
    change x ∈ ReplicaSetItem.property? item property at h
    unfold ReplicaSetItem.property? at h
    split at h
    · cases h; rfl
    · cases h; rfl
    · exact variety_of_mem_summary _ h

/-- The items of every list can be sorted by any keys. -/
theorem sortable (view : ListView) : Sortable view.Shown :=
  .ofVariety view.variety fun item property _ => view.variety_of_mem item property

end ListView

end FleetDashboard
