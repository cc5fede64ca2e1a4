import FleetDashboard.Proofs.Listing.Gather
import FleetDashboard.Views.Catalogue

/-!
# Which calls views make

A list view makes one call for each kind that it is put together from, at once and whatever comes of
them. A detail view begins with the call for its object. No view makes a call in a scope that is
cancelled.

* `ListView.sources`: the kinds that a list is put together from.
* `ListView.document_log`: the calls of a list view.
* `podDetail_log`, `mem_replicaSetDetail_log`: the calls of the detail views.
-/

namespace FleetDashboard

variable {α ρ : Type} {now : Nat}

/-- Getting one object is one call, unless the scope is cancelled. -/
theorem Lister.fetch_log (lister : Lister) (kind : ResourceKind) (inNamespace name : String)
    (scope : Scope) (now : Nat) :
    (lister.fetch kind inNamespace name scope now).log =
      if scope.isCancelled now then [] else [.get kind inNamespace name] := by
  simp only [fetch, Call.start, Task.bind_eq_andThen, Task.pure_eq_done, Task.andThen_log,
    Task.await_run, Task.done_run, List.append_nil]

/-- Getting one object as a value of its type is the same call. -/
theorem Lister.fetchAs_log [Resource ρ] (lister : Lister) (inNamespace name : String)
    (scope : Scope) (now : Nat) :
    (lister.fetchAs (ρ := ρ) inNamespace name scope now).log =
      if scope.isCancelled now then [] else [.get (Resource.kind ρ) inNamespace name] := by
  simp only [fetchAs, Task.bind_eq_andThen, Task.pure_eq_done, Task.andThen_log, Task.done_run,
    List.append_nil, fetch_log]

/-- Making a page of some kinds is one call for each of them. -/
theorem ListRequest.gather_log [Item α] (request : ListRequest) (kinds : List ResourceKind)
    (itemsKey : String) (status : List α → Option StatusCounts)
    (items : Lists → ViewResult (List α)) (now : Nat) :
    (request.gather kinds itemsKey status items now).log =
      if request.scope.isCancelled now then []
      else kinds.map fun kind => .list kind request.wanted := by
  simp only [gather, Task.bind_eq_andThen, Task.pure_eq_done, Task.andThen_log, Task.done_run,
    List.append_nil, Lister.gather_log]

namespace ListView

/-- The kinds that a list is put together from, the kind of its items first. -/
def sources : ListView → List ResourceKind
  | .deployments => [.deployment, .replicaSet, .pod]
  | .replicaSets => [.replicaSet, .pod]
  | view => [view.kind]

/-- Every list is put together from the kind of its items, at least. -/
theorem kind_mem_sources (view : ListView) : view.kind ∈ view.sources := by
  cases view <;> exact List.mem_cons_self

/-- Writing a page makes no calls. -/
theorem written_log [Item α] (page : Task Call (ViewResult (ListPage α))) (now : Nat) :
    (written page now).log = (page now).log := by
  simp only [written, Task.bind_eq_andThen, Task.pure_eq_done, Task.andThen_log, Task.done_run,
    List.append_nil]

/-- A list view is one call for each kind that the list is put together from, unless the scope is
cancelled. -/
theorem document_log (view : ListView) (request : ListRequest) (now : Nat) :
    (view.document request now).log =
      if request.scope.isCancelled now then []
      else view.sources.map fun kind => .list kind request.wanted := by
  cases view with
  | secrets => exact (written_log _ now).trans (request.gather_log [.secret] _ _ _ now)
  | configMaps => exact (written_log _ now).trans (request.gather_log [.configMap] _ _ _ now)
  | cronJobs => exact (written_log _ now).trans (request.gather_log [.cronJob] _ _ _ now)
  | deployments => exact (written_log _ now).trans (request.gather_log _ _ _ _ now)
  | namespaces => exact (written_log _ now).trans (request.gather_log [.namespace] _ _ _ now)
  | pods => exact (written_log _ now).trans (request.gather_log [.pod] _ _ _ now)
  | replicaSets => exact (written_log _ now).trans (request.gather_log _ _ _ _ now)

end ListView

/-- The view of one pod is the call for it, unless the scope is cancelled. -/
theorem podDetail_log (lister : Lister) (inNamespace name : String) (scope : Scope) (now : Nat) :
    (podDetail lister inNamespace name scope now).log =
      if scope.isCancelled now then [] else [.get .pod inNamespace name] :=
  lister.fetchAs_log inNamespace name scope now

/-- The view of one replica set begins with the call for it. -/
theorem mem_replicaSetDetail_log (lister : Lister) (inNamespace name : String) {scope : Scope}
    (hlive : scope.isCancelled now = false) :
    .get .replicaSet inNamespace name ∈
      (replicaSetDetail lister inNamespace name scope now).log := by
  unfold replicaSetDetail
  rw [Task.bind_eq_andThen, Task.mem_log_andThen, Lister.fetchAs_log, hlive]
  exact Or.inl List.mem_cons_self

end FleetDashboard
