import Mathlib.Data.List.Find
import FleetDashboard.Proofs.Views.Listing

/-!
# One replica set and the list of them

A replica set can be asked for by its name, or looked up in the list of its namespace. The first way
is one call for the replica set and, once it is there, another one for the pods; the second is one
call for each kind, side by side, and everything that is listed has to be read. Both lead to the
same item, and a name that is not in the list leads to none.

* `Lister.AnswersFrom`: a lister that lists and gets what is stored.
* `ListRequest.AsksForAll`: the list of a namespace is asked for as a whole.
* `Lister.DetailInTime`: the calls for one replica set are in time.
* `replicaSetDetail_value`: the detail, from the replica set that is got and the pods that are
  listed.
* `ListView.find?_items`: the first item of a name in a list, from the first object of that name.
* `replicaSetDetail_iff_first`: one replica set is shown as it is in the list.
-/

namespace FleetDashboard

variable {lister : Lister} {wanted : Namespaces} {scope : Scope} {now ms : Nat}
  {inNamespace name : String}

/-! ## Calls in time -/

namespace Lister

variable {kind : ResourceKind}

/-- A call that is in time comes to what its reply says, whenever it was made. -/
theorem outcome_of_inTime {reply : Reply (List ApiObject)}
    (hlist : lister.list kind wanted = .after ms reply) (hin : scope.InTime now ms) :
    lister.outcome wanted scope now kind = .ofTimely kind false (some reply) := by
  rw [outcome, hlist, Wait.timely?, if_pos hin]
  cases reply <;> rfl

/-- A call that did not fail critically was in time. -/
theorem exists_inTime_of_not_isCritical
    (h : ¬ (lister.outcome wanted scope now kind).IsCritical) :
    ∃ ms reply, lister.list kind wanted = .after ms reply ∧ scope.InTime now ms := by
  rw [outcome] at h
  cases htimely : (lister.list kind wanted).timely? (scope.InTime now) with
  | none =>
    rw [htimely] at h
    exact absurd (ListOutcome.isCritical_ofTimely_none kind _) h
  | some reply =>
    obtain ⟨ms, hlist, hin⟩ := Wait.timely?_eq_some_iff.1 htimely
    exact ⟨ms, reply, hlist, hin⟩

/-- A call that is in time comes to what the same call came to before, if that was in time. -/
theorem outcome_eq_of_inTime {bounds : Scope} {start : Nat} {reply : Reply (List ApiObject)}
    (hmild : ¬ (lister.outcome wanted scope now kind).IsCritical)
    (hlist : lister.list kind wanted = .after ms reply) (hin : bounds.InTime start ms) :
    lister.outcome wanted bounds start kind = lister.outcome wanted scope now kind := by
  obtain ⟨before, other, hbefore, hinBefore⟩ := exists_inTime_of_not_isCritical hmild
  rw [hlist] at hbefore
  cases hbefore
  rw [outcome_of_inTime hlist hin, outcome_of_inTime hlist hinBefore]

/-- A call for an object that is in time ends with its reply. -/
theorem fetch_of_inTime {reply : Except ServerFailure ApiObject}
    (hget : lister.get kind inNamespace name = .after ms reply) (hin : scope.InTime now ms) :
    (lister.fetch kind inNamespace name scope now).value = reply ∧
      (lister.fetch kind inNamespace name scope now).finish = now + ms := by
  simp only [fetch, Task.bind_eq_andThen, Task.pure_eq_done, Task.andThen_value,
    Task.andThen_finish, Task.await_run, Task.done_run, hget, Scope.await_after]
  have hstart : ((Call.get kind inNamespace name).start scope now).finish = now := rfl
  rw [hstart, if_pos hin]
  exact ⟨rfl, rfl⟩

/-- A lister answers from what is stored of a kind: its listings hold what is stored in the wanted
namespaces, and the object of a name is the first that is stored under it. -/
structure AnswersFrom (lister : Lister) (kind : ResourceKind) (stored : List ApiObject) : Prop where
  /-- A listing that is answered holds the stored objects in the wanted namespaces, in order. -/
  list : ∀ wanted ms objects, lister.list kind wanted = .after ms (.answer objects) →
    objects = stored.filter fun object => wanted.admits object.metadata.inNamespace
  /-- What is got is the first object of that name in that namespace; without one there is a
  failure. -/
  get : ∀ inNamespace name ms reply, lister.get kind inNamespace name = .after ms reply →
    reply.toOption = stored.find? fun object =>
      object.metadata.inNamespace == some inNamespace && object.name == name

/-- The calls for one replica set are in time: the one for the replica set, and the one for the pods
of its namespace, which is made when the replica set is there. -/
def DetailInTime (lister : Lister) (inNamespace name : String) (scope : Scope) (now : Nat) : Prop :=
  ∃ ms reply, lister.get .replicaSet inNamespace name = .after ms reply ∧ scope.InTime now ms ∧
    ∀ object, reply = .ok object →
      ∃ later pods, lister.list .pod (.parse (some inNamespace)) = .after later pods ∧
        scope.InTime (now + ms) later

end Lister

/-- A text that is not empty and holds no comma names one namespace. -/
theorem Namespaces.admits_parse_of_single {ns : Option String} (hne : inNamespace ≠ "")
    (hcomma : ',' ∉ inNamespace.toList) :
    (Namespaces.parse (some inNamespace)).admits ns = (ns == some inNamespace) := by
  have hnames : (Namespaces.parse (some inNamespace)).names = [inNamespace] := by
    simp [parse, ofList, Text.splitString, Text.split_of_not_mem hcomma, hne]
  unfold admits
  rw [hnames]
  cases ns with
  | none => rfl
  | some name => simp [← Bool.beq_eq_decide_eq]

/-! ## The detail -/

/-- One replica set is shown with the pods of its namespace, once it is got and read and the pods
are listed and read. -/
theorem replicaSetDetail_value (lister : Lister) (inNamespace name : String) (scope : Scope)
    (now : Nat) :
    (replicaSetDetail lister inNamespace name scope now).value = (do
      let object ← (lister.fetch .replicaSet inNamespace name scope now).value.mapError
        ResourceError.server
      let set ← (object.read : Except ReadFailure ReplicaSet).mapError ResourceError.ofReadFailure
      let lists ← (Gathered.drain [(.pod, lister.outcome (.parse (some inNamespace)) scope
        (lister.fetch .replicaSet inNamespace name scope now).finish .pod)]).mapError
          ResourceError.server
      let pods ← (lists.read : ViewResult (List Pod))
      return ReplicaSetItem.ofReplicaSet pods set) := by
  simp only [replicaSetDetail, Lister.fetchAs, Resource.kind, Task.bind_eq_andThen,
    Task.pure_eq_done, Task.andThen_value, Task.andThen_finish, Task.done_run]
  cases (lister.fetch .replicaSet inNamespace name scope now).value with
  | error failure => rfl
  | ok object =>
    cases hread : (object.read : Except ReadFailure ReplicaSet) with
    | error failure => simp [hread, Except.mapError, bind, Except.bind]
    | ok set => simp [hread, Except.mapError, bind, Except.bind, Lister.gather_value]

/-- A replica set that is got and read is shown with the pods that are listed and read. -/
theorem replicaSetDetail_of_found {object : ApiObject} {set : ReplicaSet} {outcome : ListOutcome}
    (hgot : (lister.fetch .replicaSet inNamespace name scope now).value = .ok object)
    (hset : object.value? ReplicaSet = some set)
    (hpods : lister.outcome (.parse (some inNamespace)) scope
      (lister.fetch .replicaSet inNamespace name scope now).finish .pod = outcome)
    (hmild : ¬ outcome.IsCritical)
    (hread : outcome.objects.findSome? (ApiObject.failure? Pod) = none) :
    (replicaSetDetail lister inNamespace name scope now).value =
      .ok (.ofReplicaSet (outcome.objects.filterMap (ApiObject.value? Pod)) set) := by
  rw [ApiObject.value?, toOption_eq_some_iff] at hset
  rw [replicaSetDetail_value, hgot, hpods]
  rcases Gathered.drain_map_cases [.pod] (fun _ => outcome) with
    ⟨failure, -, kind, -, hcritical⟩ | ⟨lists, hdrain, -, hobjects, -⟩
  · exact absurd hcritical hmild
  · have hlists : lists.objects (Resource.kind Pod) = outcome.objects :=
      hobjects .pod (List.mem_singleton_self _)
    have hvalues : (lists.read : ViewResult (List Pod)) =
        .ok (outcome.objects.filterMap (ApiObject.value? Pod)) := by
      rw [Lists.read_eq, hlists, hread]
    simp only [List.map_cons, List.map_nil] at hdrain
    simp [hset, hdrain, hvalues, Except.mapError, bind, Except.bind, pure, Except.pure]

/-! ## The list -/

/-- The list of a namespace is asked for as a whole: nothing is filtered or sorted, and there is
room for so many items. -/
structure ListRequest.AsksForAll (request : ListRequest) (inNamespace : String) (count : Nat) :
    Prop where
  /-- The namespace is the only one that is wanted. -/
  wanted : request.wanted = .parse (some inNamespace)
  /-- Nothing is filtered. -/
  filters : request.query.filters = []
  /-- Nothing is sorted. -/
  sorts : request.query.sorts = []
  /-- There is room for all items. -/
  covers : request.query.page.Covers request.pageCap count

namespace ListView

variable {view : ListView} {request : ListRequest} {page : ListPage view.Shown}

/-- The first item of a name in a whole list is that of the first object of that name. -/
theorem find?_items (hall : request.AsksForAll inNamespace (request.listed now view.kind).length)
    (hpage : (view.page request now).value = .ok page) (name : String) :
    (page.items.find? fun item => (view.summary item).name == name) =
      ((request.listed now view.kind).find? fun object => object.name == name).bind
        (view.item? (request.listed now)) := by
  obtain ⟨-, hfirst, itemsKey, status, rfl⟩ := eq_page_of_value hpage
  have hcovers := hall.covers
  rw [← length_filterMap_item? hfirst] at hcovers
  have hitems := select_items_of_everything hall.filters hall.sorts hcovers
  -- every object is an item that shows its name, so the items are searched as the objects are
  have hnames : ∀ object ∈ request.listed now view.kind,
      ((view.item? (request.listed now) object).any fun item => (view.summary item).name == name) =
        (object.name == name) := by
    intro object hobject
    have hsome : (view.item? (request.listed now) object).isSome :=
      isSome_item? (readFailure?_eq_none hfirst view.kind_mem_sources hobject)
    obtain ⟨item, hitem⟩ := Option.isSome_iff_exists.1 hsome
    rw [hitem, Option.any_some, summary_of_item? hitem]
    rfl
  change ((Selection.select _ request.query request.pageCap).items.find? _) = _
  rw [hitems, List.find?_filterMap, List.find?_congr hnames]

end ListView

/-- What is listed of a namespace, unless the listing fails, is what is stored of it. -/
theorem listed_of_answersFrom {request : ListRequest} {kind : ResourceKind}
    {stored : List ApiObject} (hne : inNamespace ≠ "") (hcomma : ',' ∉ inNamespace.toList)
    (hanswers : request.lister.AnswersFrom kind stored)
    (hwanted : request.wanted = .parse (some inNamespace))
    (hlists : (request.outcome now kind).failure? = none) :
    request.listed now kind =
      stored.filter fun object => object.metadata.inNamespace == some inNamespace := by
  have hmild : ¬ (request.outcome now kind).IsCritical := by
    rw [ListOutcome.isCritical_iff, hlists]
    exact Bool.false_ne_true
  obtain ⟨ms, reply, hreply, hin⟩ := Lister.exists_inTime_of_not_isCritical hmild
  have houtcome : request.outcome now kind = .ofTimely kind false (some reply) :=
    Lister.outcome_of_inTime hreply hin
  rw [houtcome] at hlists
  rw [ListRequest.listed, houtcome]
  cases reply with
  | answer objects =>
    change objects = _
    rw [hanswers.list _ _ _ hreply, hwanted]
    simp only [Namespaces.admits_parse_of_single hne hcomma]
  | failure failure => cases hlists
  | broken => cases hlists

/-- The list of all replica sets in a namespace shows one under a name exactly if the detail of that
name does, and both show the same. -/
theorem replicaSetDetail_iff_first {request : ListRequest} {stored : List ApiObject}
    {page : ListPage ReplicaSetItem} {start : Nat} {item : ReplicaSetItem}
    (hne : inNamespace ≠ "") (hcomma : ',' ∉ inNamespace.toList)
    (hanswers : request.lister.AnswersFrom .replicaSet stored)
    (hall : request.AsksForAll inNamespace (request.listed now .replicaSet).length)
    (hpage : (listReplicaSets request now).value = .ok page)
    (hsets : (request.outcome now .replicaSet).failure? = none)
    (hin : request.lister.DetailInTime inNamespace name scope start) :
    (replicaSetDetail request.lister inNamespace name scope start).value = .ok item ↔
      (page.items.find? fun item => item.summary.name == name) = some item := by
  have hlisted := listed_of_answersFrom hne hcomma hanswers hall.wanted hsets
  have hvalue : (ListView.replicaSets.page request now).value = .ok page := hpage
  obtain ⟨hmild, hread, -⟩ := ListView.eq_page_of_value hvalue
  obtain ⟨ms, reply, hget, hinGet, hinPods⟩ := hin
  obtain ⟨hgot, hfinish⟩ := Lister.fetch_of_inTime hget hinGet
  -- the first object of the name among those that are listed is the one that is got
  have hobject : ((request.listed now .replicaSet).find? fun object => object.name == name) =
      reply.toOption := by
    rw [hlisted, List.find?_filter, hanswers.get _ _ _ _ hget]
    simp only [Bool.decide_and, Bool.decide_eq_true]
  have hfirst : (page.items.find? fun item => item.summary.name == name) =
      ((request.listed now .replicaSet).find? fun object => object.name == name).bind fun object =>
        (object.value? ReplicaSet).map (.ofReplicaSet (readable Pod (request.listed now))) :=
    ListView.find?_items hall hvalue name
  rw [hfirst, hobject]
  cases reply with
  | error failure =>
    rw [replicaSetDetail_value, hgot]
    exact iff_of_false nofun nofun
  | ok object =>
    have hmem : object ∈ request.listed now .replicaSet := List.mem_of_find?_eq_some hobject
    -- what is listed can be read, the replica set that is got among it
    have hreadSet : ResourceKind.replicaSet.readFailure? object = none :=
      ListView.readFailure?_eq_none hread (by decide) hmem
    obtain ⟨set, hset⟩ := Option.isSome_iff_exists.1 (ApiObject.isSome_value?_iff.2 hreadSet)
    have hreadPod : ∀ object ∈ request.listed now .pod,
        ResourceKind.pod.readFailure? object = none :=
      fun _ => ListView.readFailure?_eq_none hread (by decide)
    have hreadPods : (request.outcome now .pod).objects.findSome? (ApiObject.failure? Pod) = none :=
      List.findSome?_eq_none_iff.2 hreadPod
    -- the pods are those of the list, though they are listed later
    obtain ⟨later, pods, hpods, hinPods⟩ := hinPods object rfl
    have hmildPods := hmild .pod (by decide)
    have hsame : request.lister.outcome (.parse (some inNamespace)) scope
        (request.lister.fetch .replicaSet inNamespace name scope start).finish .pod =
          request.outcome now .pod := by
      rw [hfinish]
      unfold ListRequest.outcome at hmildPods ⊢
      rw [hall.wanted] at hmildPods ⊢
      exact Lister.outcome_eq_of_inTime hmildPods hpods hinPods
    have hdetail := replicaSetDetail_of_found hgot hset hsame hmildPods hreadPods
    have hitem : ((Except.ok object : Except ServerFailure ApiObject).toOption.bind fun object =>
        (object.value? ReplicaSet).map
          (ReplicaSetItem.ofReplicaSet (readable Pod (request.listed now)))) =
          some (.ofReplicaSet (readable Pod (request.listed now)) set) :=
      congrArg (Option.map _) hset
    rw [hdetail, hitem, Except.ok.injEq, Option.some.injEq]
    exact Iff.rfl

/-- A replica set of a name and a namespace. -/
def storedSet (inNamespace name uid : String) : ApiObject :=
  { typeFields := []
    metadata := { Metadata.empty with
      name := some name, inNamespace := some inNamespace, uid := some uid }
    content := [] }

/-- Replica sets in two namespaces, two of them of one name. -/
def storedSets : List ApiObject :=
  [storedSet "other" "web" "a", storedSet "team" "web" "b", storedSet "team" "api" "c",
    storedSet "team" "web" "d"]

/-- A server that keeps those replica sets and refuses to list pods. -/
def setServer : Lister :=
  { list := fun kind wanted =>
      if kind = .replicaSet then
        .after 5 (.answer (storedSets.filter fun object =>
          wanted.admits object.metadata.inNamespace))
      else .after 3 (.failure (.plain .forbidden "pods is forbidden"))
    get := fun _ inNamespace name =>
      .after 2 <| match storedSets.find? fun object =>
          object.metadata.inNamespace == some inNamespace && object.name == name with
        | some object => .ok object
        | none => .error (.plain .notFound (name ++ " not found")) }

/-- The server answers from the replica sets that it keeps. -/
theorem answersFrom_setServer : setServer.AnswersFrom .replicaSet storedSets where
  list := by
    intro wanted ms objects h
    cases h
    rfl
  get := by
    intro inNamespace name ms reply h
    cases h
    split
    next object hfound => exact hfound.symm
    next hnone => exact hnone.symm

/-- All replica sets of the namespace `team`. -/
def teamRequest : ListRequest :=
  { lister := setServer, wanted := .parse (some "team"), query := .everything
    scope := .lasting 0 1000, pageCap := 3 }

/-- Of two replica sets of one name the first is shown, with the pods missing that may not be
listed. -/
theorem replicaSetDetail_iff_first_twoOfOneName :
    ',' ∉ "team".toList ∧ teamRequest.lister.AnswersFrom .replicaSet storedSets ∧
      teamRequest.AsksForAll "team" (teamRequest.listed 0 .replicaSet).length ∧
      (teamRequest.outcome 0 .replicaSet).failure? = none ∧
      teamRequest.lister.DetailInTime "team" "web" (.lasting 20 100) 20 ∧
      ∃ page, (listReplicaSets teamRequest 0).value = .ok page ∧
        (page.warnings.length, page.items.map (·.summary.uid)) = (1, ["b", "c", "d"]) ∧
        ∀ item,
          (replicaSetDetail teamRequest.lister "team" "web" (.lasting 20 100) 20).value = .ok item ↔
            (page.items.find? fun item => item.summary.name == "web") = some item := by
  have hcomma : ',' ∉ "team".toList := by decide
  have hanswers : teamRequest.lister.AnswersFrom .replicaSet storedSets := answersFrom_setServer
  have hall : teamRequest.AsksForAll "team" (teamRequest.listed 0 .replicaSet).length :=
    ⟨rfl, rfl, rfl, by decide +kernel, by decide +kernel⟩
  have hsets : (teamRequest.outcome 0 .replicaSet).failure? = none := rfl
  have hin : teamRequest.lister.DetailInTime "team" "web" (.lasting 20 100) 20 :=
    ⟨2, _, rfl, by decide, fun _ _ => ⟨3, _, rfl, by decide⟩⟩
  have hshown : ((listReplicaSets teamRequest 0).value.toOption.map fun page =>
      (page.warnings.length, page.items.map (·.summary.uid))) = some (1, ["b", "c", "d"]) := by
    decide +kernel
  obtain ⟨page, hpage, hitems⟩ := Option.map_eq_some_iff.1 hshown
  have hpage := toOption_eq_some_iff.1 hpage
  exact ⟨hcomma, hanswers, hall, hsets, hin, page, hpage, hitems, fun item =>
    replicaSetDetail_iff_first (by decide) hcomma hanswers hall hpage hsets hin⟩

end FleetDashboard
