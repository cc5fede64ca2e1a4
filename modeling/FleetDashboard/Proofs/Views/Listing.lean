import FleetDashboard.Proofs.Selection.Arrangement
import FleetDashboard.Proofs.Views.Calls
import FleetDashboard.Proofs.Views.Reading
import FleetDashboard.Proofs.Views.Sorting

/-!
# What a list shows

A list is all or nothing. It fails if a kind that it is put together from failed critically, or if
an object of such a kind cannot be read. Otherwise every object of the kind that it shows is an item
of it, in the order in which the objects were listed, and what is counted and warned of is what was
listed.

* `ListView.page`: the page of a list, before it is written.
* `ListView.firstFailure?`: the first object that cannot be read decides.
* `ListView.item?`: the item of an object, among all that is listed.
* `ListView.ListsEverything`, `ListView.listsEverything`: what a list shows and when it fails.
-/

namespace FleetDashboard

open Selection (Satisfies arrange)

/-! ## Gathering -/

/-- What becomes of a kind that a list asks for. -/
def ListRequest.outcome (request : ListRequest) (now : Nat) (kind : ResourceKind) : ListOutcome :=
  request.lister.outcome request.wanted request.scope now kind

/-- The objects of a kind that a list gets to see. -/
def ListRequest.listed (request : ListRequest) (now : Nat) (kind : ResourceKind) :
    List ApiObject :=
  (request.outcome now kind).objects

/-- A page is made of what is gathered, or there is the error of gathering or of making items. -/
theorem ListRequest.gather_value {α : Type} [Item α] (request : ListRequest)
    (kinds : List ResourceKind) (itemsKey : String) (status : List α → Option StatusCounts)
    (items : Lists → ViewResult (List α)) (now : Nat) :
    (request.gather kinds itemsKey status items now).value =
      match Gathered.drain (kinds.map fun kind => (kind, request.outcome now kind)) with
      | .error failure => .error (.server failure)
      | .ok lists =>
        (items lists).map fun all => request.page itemsKey all (status all) lists.warnings := by
  simp only [gather, Task.bind_eq_andThen, Task.pure_eq_done, Task.andThen_value, Task.done_run,
    Lister.gather_value, outcome]
  cases Gathered.drain (kinds.map fun kind =>
      (kind, request.lister.outcome request.wanted request.scope now kind)) with
  | error failure => rfl
  | ok lists =>
    dsimp only
    change (items lists >>= fun all =>
      pure (request.page itemsKey all (status all) lists.warnings)) = _
    cases items lists <;> rfl

/-- Making a page takes as long as gathering. -/
theorem ListRequest.gather_finish {α : Type} [Item α] (request : ListRequest)
    (kinds : List ResourceKind) (itemsKey : String) (status : List α → Option StatusCounts)
    (items : Lists → ViewResult (List α)) (now : Nat) :
    (request.gather kinds itemsKey status items now).finish =
      (request.lister.gather kinds request.wanted request.scope now).finish := by
  simp only [gather, Task.bind_eq_andThen, Task.pure_eq_done, Task.andThen_finish, Task.done_run]

/-! ## Objects as items -/

/-- Why an object of a kind cannot be read; the kinds that are in no list are not read. -/
def ResourceKind.readFailure? : ResourceKind → ApiObject → Option ReadFailure
  | .namespace => ApiObject.failure? NamespaceObject
  | .pod => ApiObject.failure? Pod
  | .deployment => ApiObject.failure? Deployment
  | .replicaSet => ApiObject.failure? ReplicaSet
  | .cronJob => ApiObject.failure? CronJob
  | .configMap => ApiObject.failure? ConfigMap
  | .secret => ApiObject.failure? Secret
  | _ => fun _ => none

/-- The fields that the objects of a kind have besides their metadata and those about their type. -/
def ResourceKind.members : ResourceKind → List Member
  | .namespace => Resource.members NamespaceObject
  | .pod => Resource.members Pod
  | .deployment => Resource.members Deployment
  | .replicaSet => Resource.members ReplicaSet
  | .cronJob => Resource.members CronJob
  | .configMap => Resource.members ConfigMap
  | .secret => Resource.members Secret
  | _ => []

/-- The objects of a type among all that is listed. -/
def readable (ρ : Type) [Resource ρ] (listed : ResourceKind → List ApiObject) : List ρ :=
  (listed (Resource.kind ρ)).filterMap (ApiObject.value? ρ)

namespace ListView

variable {view : ListView} {listed : ResourceKind → List ApiObject} {object : ApiObject}

/-- The page of a list. -/
def page (view : ListView) (request : ListRequest) :
    Task Call (ViewResult (ListPage view.Shown)) :=
  match view with
  | .secrets => listSecrets request
  | .configMaps => listConfigMaps request
  | .cronJobs => listCronJobs request
  | .deployments => listDeployments request
  | .namespaces => listNamespaces request
  | .pods => listPods request
  | .replicaSets => listReplicaSets request

/-- What a list answers is its page, written. -/
theorem document_eq (view : ListView) (request : ListRequest) :
    view.document request = written (view.page request) := by
  cases view <;> rfl

/-- The item of an object, among all that is listed. -/
def item? (view : ListView) (listed : ResourceKind → List ApiObject) (object : ApiObject) :
    Option view.Shown :=
  match view with
  | .secrets => (object.value? Secret).map SecretItem.ofSecret
  | .configMaps => (object.value? ConfigMap).map ConfigMapItem.ofConfigMap
  | .cronJobs => (object.value? CronJob).map CronJobItem.ofCronJob
  | .deployments =>
    (object.value? Deployment).map
      (DeploymentItem.ofDeployment (readable ReplicaSet listed) (readable Pod listed))
  | .namespaces => (object.value? NamespaceObject).map NamespaceItem.ofNamespace
  | .pods => (object.value? Pod).map PodItem.ofPod
  | .replicaSets =>
    (object.value? ReplicaSet).map (ReplicaSetItem.ofReplicaSet (readable Pod listed))

/-- What an item shows of the metadata of its object. -/
def summary (view : ListView) : view.Shown → ObjectSummary :=
  match view with
  | .secrets => SecretItem.summary
  | .configMaps => ConfigMapItem.summary
  | .cronJobs => CronJobItem.summary
  | .deployments => DeploymentItem.summary
  | .namespaces => NamespaceItem.summary
  | .pods => PodItem.summary
  | .replicaSets => ReplicaSetItem.summary

/-- The name of the items of a list in response bodies. -/
def itemsKey : ListView → String
  | .secrets => "secrets"
  | .configMaps | .cronJobs => "items"
  | .deployments => "deployments"
  | .namespaces => "namespaces"
  | .pods => "pods"
  | .replicaSets => "replicaSets"

/-- All items by status, in the lists that count them. -/
def statusCounts (view : ListView) : List view.Shown → Option StatusCounts :=
  match view with
  | .cronJobs => fun items => some (.ofRunning CronJobItem.isRunning items)
  | .deployments => fun items => some (.ofRunning DeploymentItem.isRunning items)
  | .pods => fun items => some (PodItem.counts items)
  | .secrets | .configMaps | .namespaces | .replicaSets => fun _ => none

/-- Why a list cannot be put together: the first object that cannot be read, in the order in which
the kinds are read and the objects are listed. -/
def firstFailure? (view : ListView) (listed : ResourceKind → List ApiObject) :
    Option ReadFailure :=
  view.sources.findSome? fun kind => (listed kind).findSome? kind.readFailure?

/-- The items of a list, if all objects can be read. -/
def collect (view : ListView) (listed : ResourceKind → List ApiObject) :
    ViewResult (List view.Shown) :=
  match view.firstFailure? listed with
  | some failure => .error (.ofReadFailure failure)
  | none => .ok ((listed view.kind).filterMap (view.item? listed))

/-- A list of one kind collects what is made of its objects. -/
theorem collect_of_single (view : ListView) {ρ : Type} [Resource ρ] (toItem : ρ → view.Shown)
    {lists : Lists}
    (hsources : view.sources = [Resource.kind ρ]) (hkind : view.kind = Resource.kind ρ)
    (hread : (Resource.kind ρ).readFailure? = ApiObject.failure? ρ)
    (hitem : ∀ object, view.item? listed object = (object.value? ρ).map toItem)
    (hlists : ∀ kind ∈ view.sources, lists.objects kind = listed kind) :
    (lists.read : ViewResult (List ρ)).map (List.map toItem) = view.collect listed := by
  have hobjects : lists.objects (Resource.kind ρ) = listed (Resource.kind ρ) :=
    hlists _ (hsources ▸ List.mem_cons_self)
  rw [Lists.read_eq, collect, firstFailure?, hsources, List.findSome?_singleton, hread, hkind,
    hobjects, funext hitem]
  cases (listed (Resource.kind ρ)).findSome? (ApiObject.failure? ρ) with
  | some failure => rfl
  | none => exact congrArg Except.ok List.map_filterMap

/-- Every list gathers its sources and collects its items from them. -/
theorem page_eq_gather (view : ListView) (request : ListRequest) :
    ∃ items,
      view.page request = request.gather view.sources view.itemsKey view.statusCounts items ∧
      ∀ (lists : Lists) (listed : ResourceKind → List ApiObject),
        (∀ kind ∈ view.sources, lists.objects kind = listed kind) →
          items lists = view.collect listed := by
  cases view with
  | secrets =>
    exact ⟨_, rfl, fun lists listed =>
      collect_of_single .secrets SecretItem.ofSecret rfl rfl rfl fun _ => rfl⟩
  | configMaps =>
    exact ⟨_, rfl, fun lists listed =>
      collect_of_single .configMaps ConfigMapItem.ofConfigMap rfl rfl rfl fun _ => rfl⟩
  | cronJobs =>
    exact ⟨_, rfl, fun lists listed =>
      collect_of_single .cronJobs CronJobItem.ofCronJob rfl rfl rfl fun _ => rfl⟩
  | namespaces =>
    exact ⟨_, rfl, fun lists listed =>
      collect_of_single .namespaces NamespaceItem.ofNamespace rfl rfl rfl fun _ => rfl⟩
  | pods =>
    exact ⟨_, rfl, fun lists listed =>
      collect_of_single .pods PodItem.ofPod rfl rfl rfl fun _ => rfl⟩
  | deployments =>
    refine ⟨_, rfl, fun lists listed h => ?_⟩
    have hdeployments : lists.objects .deployment = listed .deployment := h _ (by decide)
    have hsets : lists.objects .replicaSet = listed .replicaSet := h _ (by decide)
    have hpods : lists.objects .pod = listed .pod := h _ (by decide)
    simp only [Lists.read_eq, Resource.kind, hdeployments, hsets, hpods, collect, firstFailure?,
      sources, List.findSome?_cons, List.findSome?_nil, ResourceKind.readFailure?]
    -- a kind that cannot be read decides before the kinds after it are read
    cases (listed .deployment).findSome? (ApiObject.failure? Deployment) with
    | some failure => rfl
    | none =>
      cases (listed .replicaSet).findSome? (ApiObject.failure? ReplicaSet) with
      | some failure => rfl
      | none =>
        cases (listed .pod).findSome? (ApiObject.failure? Pod) with
        | some failure => rfl
        | none => exact congrArg Except.ok List.map_filterMap
  | replicaSets =>
    refine ⟨_, rfl, fun lists listed h => ?_⟩
    have hsets : lists.objects .replicaSet = listed .replicaSet := h _ (by decide)
    have hpods : lists.objects .pod = listed .pod := h _ (by decide)
    simp only [Lists.read_eq, Resource.kind, hsets, hpods, collect, firstFailure?, sources,
      List.findSome?_cons, List.findSome?_nil, ResourceKind.readFailure?]
    cases (listed .replicaSet).findSome? (ApiObject.failure? ReplicaSet) with
    | some failure => rfl
    | none =>
      cases (listed .pod).findSome? (ApiObject.failure? Pod) with
      | some failure => rfl
      | none => exact congrArg Except.ok List.map_filterMap

/-- An object of the kind that is shown is an item unless it cannot be read. -/
theorem isSome_item? (h : view.kind.readFailure? object = none) :
    (view.item? listed object).isSome := by
  cases view <;> exact Option.isSome_map.trans (ApiObject.isSome_value?_iff.2 h)

/-- Without a first object that cannot be read, every object can be. -/
theorem readFailure?_eq_none (h : view.firstFailure? listed = none) {kind : ResourceKind}
    (hkind : kind ∈ view.sources) (hobject : object ∈ listed kind) :
    kind.readFailure? object = none :=
  List.findSome?_eq_none_iff.1 (List.findSome?_eq_none_iff.1 h kind hkind) object hobject

/-- An object that a list is put together from can be read exactly if every field of it is of its
type. -/
theorem readFailure?_eq_none_iff {kind : ResourceKind} (hkind : kind ∈ view.sources) :
    kind.readFailure? object = none ↔ object.Fits kind kind.members := by
  have hread (ρ : Type) [Resource ρ] :
      object.failure? ρ = none ↔ object.Fits (Resource.kind ρ) (Resource.members ρ) :=
    ApiObject.isSome_value?_iff.symm.trans ApiObject.isSome_value?_iff_fits
  cases kind
  case «namespace» => exact hread NamespaceObject
  case pod => exact hread Pod
  case deployment => exact hread Deployment
  case replicaSet => exact hread ReplicaSet
  case cronJob => exact hread CronJob
  case configMap => exact hread ConfigMap
  case secret => exact hread Secret
  -- no list is put together from any other kind
  all_goals exact absurd hkind (by cases view <;> decide)

/-- If all objects can be read, each of them is an item. -/
theorem map_some_filterMap_item? (h : view.firstFailure? listed = none) :
    ((listed view.kind).filterMap (view.item? listed)).map some =
      (listed view.kind).map (view.item? listed) := by
  rw [List.map_filterMap_some_eq_filter_map_isSome, List.filter_eq_self]
  intro item? hitem
  obtain ⟨object, hobject, rfl⟩ := List.mem_map.1 hitem
  exact isSome_item? (readFailure?_eq_none h view.kind_mem_sources hobject)

theorem length_filterMap_item? (h : view.firstFailure? listed = none) :
    ((listed view.kind).filterMap (view.item? listed)).length = (listed view.kind).length := by
  rw [← List.length_map some, map_some_filterMap_item? h, List.length_map]

/-- An item shows the metadata of its object, with times in whole seconds. -/
theorem summary_of_item? {item : view.Shown} (h : view.item? listed object = some item) :
    view.summary item = .ofMetadata object.metadata.wholeSeconds := by
  cases view <;>
  · obtain ⟨value, hvalue, rfl⟩ := Option.map_eq_some_iff.1 h
    exact congrArg ObjectSummary.ofMetadata (metadata_of_value? hvalue)

/-! ## Pages -/

/-- What goes wrong with the kinds of a list, in their order. -/
def failures (view : ListView) (request : ListRequest) (now : Nat) : List ServerFailure :=
  view.sources.filterMap fun kind => (request.outcome now kind).failure?

/-- All items of a list, or the error in their place. Nothing that is asked of the items matters. -/
def whole (view : ListView) (request : ListRequest) (now : Nat) : ViewResult (List view.Shown) :=
  match Gathered.drain (view.sources.map fun kind => (kind, request.outcome now kind)) with
  | .error failure => .error (.server failure)
  | .ok _ => view.collect (request.listed now)

/-- A page is made of all items of its list. -/
theorem page_value_eq (view : ListView) (request : ListRequest) (now : Nat) :
    (view.page request now).value =
      (view.whole request now).map fun items =>
        request.page view.itemsKey items (view.statusCounts items) (view.failures request now) := by
  obtain ⟨items, hpage, hitems⟩ := view.page_eq_gather request
  rw [hpage, ListRequest.gather_value, whole]
  rcases Gathered.drain_map_cases view.sources (request.outcome now) with
    ⟨failure, hdrain, -⟩ | ⟨lists, hdrain, -, hobjects, hwarnings⟩
  · rw [hdrain]
    rfl
  · rw [hdrain]
    dsimp only
    rw [hitems lists (request.listed now) hobjects, hwarnings]
    rfl

/-- A list is answered when its sources are gathered. -/
theorem document_finish (view : ListView) (request : ListRequest) (now : Nat) :
    (view.document request now).finish =
      (request.lister.gather view.sources request.wanted request.scope now).finish := by
  obtain ⟨items, hpage, -⟩ := view.page_eq_gather request
  rw [document_eq, hpage]
  simp only [written, Task.bind_eq_andThen, Task.pure_eq_done, Task.andThen_finish, Task.done_run]
  exact request.gather_finish _ _ _ _ now

/-- Without a critical failure a page is made of what is collected; with one there is none. -/
theorem page_value_cases (view : ListView) (request : ListRequest) (now : Nat) :
    (∃ failure, (view.page request now).value = .error (.server failure) ∧
        ∃ kind ∈ view.sources, (request.outcome now kind).IsCritical) ∨
      (∀ kind ∈ view.sources, ¬ (request.outcome now kind).IsCritical) ∧
        ∃ (itemsKey : String) (status : List view.Shown → Option StatusCounts),
          (view.page request now).value =
            (view.collect (request.listed now)).map fun items =>
              request.page itemsKey items (status items) (view.failures request now) := by
  rw [page_value_eq, whole]
  rcases Gathered.drain_map_cases view.sources (request.outcome now) with
    ⟨failure, hdrain, hcritical⟩ | ⟨lists, hdrain, hmild, -⟩
  · rw [hdrain]
    exact Or.inl ⟨failure, rfl, hcritical⟩
  · rw [hdrain]
    exact Or.inr ⟨hmild, view.itemsKey, view.statusCounts, rfl⟩

/-- The first critical failure is the one that a list fails with. -/
theorem page_value_of_critical {request : ListRequest} {now : Nat}
    {earlier later : List ResourceKind} {kind : ResourceKind} {failure : ServerFailure}
    (hsources : view.sources = earlier ++ kind :: later)
    (hkind : request.outcome now kind = .error failure) (hcritical : failure.isCritical = true)
    (hearlier : ∀ other ∈ earlier, ¬ (request.outcome now other).IsCritical) :
    (view.page request now).value = .error (.server failure) := by
  rw [page_value_eq, whole, hsources, Gathered.drain_map_of_first hkind hcritical hearlier]
  rfl

/-- Some object cannot be read exactly if there is a first one. -/
theorem isSome_firstFailure?_iff :
    (view.firstFailure? listed).isSome ↔
      ∃ kind ∈ view.sources, ∃ object ∈ listed kind, (kind.readFailure? object).isSome := by
  simp only [firstFailure?, List.findSome?_isSome_iff]

/-- A page is there only if nothing is critical and all objects can be read. It is made of the items
of all objects. -/
theorem eq_page_of_value {request : ListRequest} {now : Nat} {page : ListPage view.Shown}
    (h : (view.page request now).value = .ok page) :
    (∀ kind ∈ view.sources, ¬ (request.outcome now kind).IsCritical) ∧
      view.firstFailure? (request.listed now) = none ∧
      ∃ (itemsKey : String) (status : Option StatusCounts),
        page = request.page itemsKey ((request.listed now view.kind).filterMap
          (view.item? (request.listed now))) status (view.failures request now) := by
  rcases view.page_value_cases request now with
    ⟨failure, hvalue, -⟩ | ⟨hmild, itemsKey, status, hvalue⟩
  · rw [hvalue] at h
    cases h
  · rw [hvalue, collect] at h
    cases hfirst : view.firstFailure? (request.listed now) with
    | some failure =>
      rw [hfirst] at h
      cases h
    | none =>
      rw [hfirst] at h
      cases h
      exact ⟨hmild, rfl, itemsKey, _, rfl⟩

/-- If nothing is filtered or sorted and there is room for everything, everything is selected. -/
theorem select_items_of_everything {α : Type} [Selection.HasProperties α]
    {query : Selection.Query} {cap : Nat} {items : List α} (hfilters : query.filters = [])
    (hsorts : query.sorts = []) (hcovers : query.page.Covers cap items.length) :
    (Selection.select items query cap).items = items := by
  rw [Selection.select_items_of_covers hcovers, arrange, hfilters, hsorts]
  exact List.filter_eq_self.2 fun _ _ => rfl

/-- What it means that a list is all or nothing and leaves nothing out, when it is asked for at a
moment. -/
structure ListsEverything (view : ListView) (request : ListRequest) (now : Nat) : Prop where
  /-- What is answered is the page, written. -/
  answer : view.document request = written (view.page request)
  /-- It fails if a kind failed critically or an object cannot be read, and in no other case. -/
  fails : (∃ error, (view.page request now).value = .error error) ↔
    (∃ kind ∈ view.sources, (request.outcome now kind).IsCritical) ∨
      ∃ kind ∈ view.sources, ∃ object ∈ request.listed now kind,
        (kind.readFailure? object).isSome
  /-- An object can be read exactly if every field of it is of its type, shown or not. -/
  decodes : ∀ kind ∈ view.sources, ∀ object,
    kind.readFailure? object = none ↔ object.Fits kind kind.members
  /-- The first critical failure comes first. -/
  critical : ∀ earlier kind later failure, view.sources = earlier ++ kind :: later →
    request.outcome now kind = .error failure → failure.isCritical = true →
      (∀ other ∈ earlier, ¬ (request.outcome now other).IsCritical) →
        (view.page request now).value = .error (.server failure)
  /-- Without one the first object that cannot be read decides. -/
  unreadable : (∀ kind ∈ view.sources, ¬ (request.outcome now kind).IsCritical) →
    ∀ failure, view.firstFailure? (request.listed now) = some failure →
      (view.page request now).value = .error (.ofReadFailure failure)
  /-- A page tells how many objects were listed. -/
  total : ∀ page, (view.page request now).value = .ok page →
    page.total = (request.listed now view.kind).length
  /-- It tells how many of their items satisfy the filters. -/
  matched : ∀ page, (view.page request now).value = .ok page →
    page.matched = (((request.listed now view.kind).filterMap
      (view.item? (request.listed now))).filter (Satisfies request.query.filters ·)).length
  /-- It warns of what went wrong, in the order of the kinds. -/
  warnings : ∀ page, (view.page request now).value = .ok page →
    page.warnings = view.failures request now ∧
      ∀ failure ∈ page.warnings, failure.isCritical = false
  /-- With nothing to filter or sort and room for everything, its items are those of the objects,
  one for each and in their order. -/
  items : ∀ page, (view.page request now).value = .ok page → request.query.filters = [] →
    request.query.sorts = [] →
      request.query.page.Covers request.pageCap (request.listed now view.kind).length →
        page.items.map some =
          (request.listed now view.kind).map (view.item? (request.listed now))
  /-- An item shows the metadata of its object; the time of creation is cut to whole seconds. -/
  metadata : ∀ object item, view.item? (request.listed now) object = some item →
    view.summary item =
      { name := object.metadata.name.getD ""
        inNamespace := object.metadata.inNamespace.getD ""
        labels := object.metadata.labels.getD []
        annotations := object.metadata.annotations.getD []
        created := object.metadata.created.map Instant.wholeSecond
        uid := object.metadata.uid.getD "" }

/-- Every list is all or nothing and leaves nothing out. -/
theorem listsEverything (view : ListView) (request : ListRequest) (now : Nat) :
    view.ListsEverything request now where
  answer := view.document_eq request
  fails := by
    rw [← isSome_firstFailure?_iff]
    rcases view.page_value_cases request now with
      ⟨failure, hvalue, hcritical⟩ | ⟨hmild, itemsKey, status, hvalue⟩
    · exact iff_of_true ⟨_, hvalue⟩ (Or.inl hcritical)
    · -- without a critical failure only an object can make the list fail
      have hnone : ¬ ∃ kind ∈ view.sources, (request.outcome now kind).IsCritical :=
        fun ⟨kind, hkind, hcritical⟩ => hmild kind hkind hcritical
      rw [or_iff_right hnone, hvalue, collect]
      cases view.firstFailure? (request.listed now) with
      | some failure => exact iff_of_true ⟨_, rfl⟩ rfl
      | none => exact iff_of_false nofun nofun
  decodes := fun _ hkind _ => readFailure?_eq_none_iff hkind
  critical := fun _ _ _ _ => page_value_of_critical
  unreadable := fun hmild failure hfirst => by
    rcases view.page_value_cases request now with
      ⟨-, -, kind, hkind, hcritical⟩ | ⟨-, itemsKey, status, hvalue⟩
    · exact absurd hcritical (hmild kind hkind)
    · rw [hvalue, collect, hfirst]
      rfl
  total := fun page h => by
    obtain ⟨-, hfirst, itemsKey, status, rfl⟩ := eq_page_of_value h
    exact length_filterMap_item? hfirst
  matched := fun page h => by
    obtain ⟨-, -, itemsKey, status, rfl⟩ := eq_page_of_value h
    exact congrArg List.length (Selection.filter_matchesAll _ _)
  warnings := fun page h => by
    obtain ⟨hmild, -, itemsKey, status, rfl⟩ := eq_page_of_value h
    refine ⟨rfl, fun failure hfailure => ?_⟩
    obtain ⟨kind, hkind, hfailed⟩ := List.mem_filterMap.1 hfailure
    have hnot := hmild kind hkind
    rw [ListOutcome.isCritical_iff, hfailed] at hnot
    exact Bool.eq_false_iff.2 hnot
  items := fun page h hfilters hsorts hcovers => by
    obtain ⟨-, hfirst, itemsKey, status, rfl⟩ := eq_page_of_value h
    -- there is room for all items because there are as many as objects
    rw [← length_filterMap_item? hfirst] at hcovers
    rw [← map_some_filterMap_item? hfirst]
    exact congrArg (List.map some) (select_items_of_everything hfilters hsorts hcovers)
  metadata := fun _ _ => summary_of_item?

/-- A list need not show the very moment at which an object was created, even if nothing is filtered
or sorted and there is room for everything: a fraction of a second is lost. -/
theorem created_lost :
    ¬ ∀ (view : ListView) (request : ListRequest) (now : Nat) (page : ListPage view.Shown),
      (view.page request now).value = .ok page → request.query = .everything →
        (request.listed now view.kind).length ≤ request.pageCap →
          page.items.map (fun item => (view.summary item).created) =
            (request.listed now view.kind).map fun object => object.metadata.created := by
  intro h
  let object : ApiObject :=
    { typeFields := [("apiVersion", .str "v1"), ("kind", .str "Namespace")]
      metadata := { Metadata.empty with
        name := some "one", created := some { seconds := 1709294400, nanos := 500000000 } }
      content := [] }
  let request : ListRequest :=
    { lister := { list := fun _ _ => .after 0 (.answer [object]), get := fun _ _ _ => .never }
      wanted := .all, query := .everything, scope := .lasting 0 1000, pageCap := 10 }
  have hshown := h .namespaces request 0 _ rfl rfl (by decide)
  exact absurd hshown (by decide)

end ListView

end FleetDashboard
