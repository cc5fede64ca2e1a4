import FleetDashboard.Proofs.Api.Serving
import FleetDashboard.Proofs.Views.Calls

/-!
# Where pages are read

A page is read from one place only. The place is asked for when the query of the request can be
read, and its calls are made when the place can be reached and, for a list, the selection is well
formed.

* `Place.request`, `Service.listerAt`: what is asked for, and how it answers.
* `Exhibit.Accepts`: the query is one that the exhibit is shown for.
* `Service.of_mem_calls_servePage`: where the calls of a page go.
* `Service.exists_mem_calls_servePage`: when there are any.
* `Service.servePage_congr`: a page depends on the lister of its own place alone.
* `Service.of_mem_calls_page`: what stands before a call for a page.
-/

namespace FleetDashboard

/-- What is asked for when a place is to be reached. -/
def Place.request (identity : Identity) : Place → TargetRequest
  | .controlPlane => .controlPlane identity
  | .member cluster => .member cluster
  | .management => .management

/-- How the targets answer when a place is to be reached. -/
def Targets.listerAt (targets : Targets) (identity : Identity) :
    Place → Except ClientError BoundLister
  | .controlPlane => targets.controlPlane identity
  | .member cluster => targets.member cluster
  | .management => targets.management

/-- The query of a request is one for which the exhibit is shown: for a list it has to be a well
formed selection, anything else takes no notice of it. -/
def Exhibit.Accepts (query : Option String) : Exhibit → Prop
  | .list _ _ => ∃ parameters selection, ListParameters.parse (query.getD "") = .ok parameters ∧
      parameters.selection = .ok selection
  | _ => True

/-- Resolving the escapes changes nothing about the queries that an exhibit is shown for. -/
theorem Exhibit.accepts_of_decode {query : Option String} {shown decoded : Exhibit}
    (h : shown.decode = .ok decoded) : decoded.Accepts query ↔ shown.Accepts query := by
  cases shown with
  | list view inNamespace =>
    cases inNamespace with
    | none =>
      cases h
      exact Iff.rfl
    | some written =>
      obtain ⟨resolved, -, hdecoded⟩ := bind_eq_ok_iff.1 h
      cases hdecoded
      exact Iff.rfl
  | pod inNamespace name =>
    obtain ⟨resolved, -, hrest⟩ := bind_eq_ok_iff.1 h
    obtain ⟨resolvedName, -, hdecoded⟩ := bind_eq_ok_iff.1 hrest
    cases hdecoded
    exact Iff.rfl
  | replicaSet inNamespace name =>
    obtain ⟨resolved, -, hrest⟩ := bind_eq_ok_iff.1 h
    obtain ⟨resolvedName, -, hdecoded⟩ := bind_eq_ok_iff.1 hrest
    cases hdecoded
    exact Iff.rfl

namespace Service

variable {service : Service} {place : Place} {shown : Exhibit} {query : Option String}
  {request : HttpRequest} {route : Route} {identity : Identity} {scope : Scope}
  {bound : BoundLister} {now : Nat}

/-- A place is reached by asking for it. -/
theorem reachPlace_eq (service : Service) (place : Place) (identity : Identity) :
    service.reachPlace place identity =
      reach (place.request identity) (service.targets.listerAt identity place) := by
  cases place <;> rfl

/-- Of a place that cannot be reached there is the error, and no call was made. -/
theorem readPlace_of_error {error : ClientError} (work : Lister → Task Call (ViewResult Json))
    (hplace : service.targets.listerAt identity place = .error error) :
    service.readPlace place identity work now =
      ⟨.ofError (.client error), now, [.asked (place.request identity)]⟩ := by
  rw [readPlace, reachPlace_eq, hplace]
  rfl

/-- Of a place that can be reached there is what the work makes of its lister, and the calls are
those of the work. -/
theorem readPlace_of_ok (work : Lister → Task Call (ViewResult Json))
    (hplace : service.targets.listerAt identity place = .ok bound) :
    service.readPlace place identity work now =
      ⟨.ofResult (work bound.lister now).value, (work bound.lister now).finish,
        .asked (place.request identity) ::
          (work bound.lister now).log.map fun call => .called ⟨bound.target, call⟩⟩ := by
  rw [readPlace, reachPlace_eq, hplace]
  simp only [Task.bind_eq_andThen, Task.andThen, reach, read, BoundLister.run, Task.mapLog,
    Task.pure_eq_done, Task.done, List.map_map, List.append_nil, List.singleton_append]
  rfl

/-- Work on a place depends on the lister of that place alone. -/
theorem readPlace_congr {targets : Targets} (work : Lister → Task Call (ViewResult Json))
    (hsame : targets.listerAt identity place = service.targets.listerAt identity place) :
    { service with targets }.readPlace place identity work =
      service.readPlace place identity work := by
  unfold readPlace
  rw [reachPlace_eq, reachPlace_eq, hsame]

/-- A page depends on the lister of its own place alone. -/
theorem servePage_congr {targets : Targets}
    (hsame : targets.listerAt identity place = service.targets.listerAt identity place) :
    { service with targets }.servePage place shown query identity scope =
      service.servePage place shown query identity scope := by
  cases shown with
  | pod inNamespace name => exact readPlace_congr _ hsame
  | replicaSet inNamespace name => exact readPlace_congr _ hsame
  | list view inNamespace =>
    simp only [servePage, serveList]
    cases ListParameters.parse (query.getD "") with
    | error flaw => rfl
    | ok parameters => exact readPlace_congr _ hsame

/-! ## What a page comes to -/

/-- A page in three cases: the query cannot be read, the selection is malformed, or the exhibit is
worked out. In the last case at least one call is made, unless the scope is cancelled. -/
theorem servePage_cases (service : Service) (place : Place) (shown : Exhibit)
    (query : Option String) (identity : Identity) (scope : Scope) :
    (¬ shown.Accepts query ∧ ∃ response,
        service.servePage place shown query identity scope = .done response) ∨
      (¬ shown.Accepts query ∧ ∃ result,
        service.servePage place shown query identity scope =
          service.readPlace place identity fun _ => .done result) ∨
      (shown.Accepts query ∧ ∃ work,
        service.servePage place shown query identity scope =
          service.readPlace place identity work ∧
        ∀ lister now, scope.isCancelled now = false → (work lister now).log ≠ []) := by
  cases shown with
  | pod inNamespace name =>
    refine Or.inr (Or.inr ⟨trivial, _, rfl, fun lister now hlive hnil => ?_⟩)
    rw [Task.bind_eq_andThen, Task.andThen_log, podDetail_log, hlive] at hnil
    cases hnil
  | replicaSet inNamespace name =>
    refine Or.inr (Or.inr ⟨trivial, _, rfl, fun lister now hlive hnil => ?_⟩)
    rw [Task.bind_eq_andThen, Task.andThen_log, List.append_eq_nil_iff] at hnil
    have hmem := mem_replicaSetDetail_log lister inNamespace name hlive
    rw [hnil.1] at hmem
    cases hmem
  | list view inNamespace =>
    simp only [servePage, serveList, Exhibit.Accepts]
    cases hparse : ListParameters.parse (query.getD "") with
    | error flaw =>
      -- the query cannot be read: the place is not even asked for
      refine Or.inl ⟨?_, _, rfl⟩
      rintro ⟨parameters, selection, ⟨⟩, -⟩
    | ok parameters =>
      simp only
      cases hselection : parameters.selection with
      | error flaw =>
        -- the selection is malformed: the place is asked for, but not read
        refine Or.inr (Or.inl ⟨?_, _, rfl⟩)
        rintro ⟨_, selection, ⟨rfl⟩, hok⟩
        rw [hselection] at hok
        cases hok
      | ok selection =>
        refine Or.inr (Or.inr ⟨⟨parameters, selection, rfl, hselection⟩, _, rfl, ?_⟩)
        intro lister now hlive hnil
        -- the kind of the items is listed whatever else the list is put together from
        simp only [ListView.document_log, hlive, Bool.false_eq_true, ↓reduceIte,
          List.map_eq_nil_iff] at hnil
        have hmem := view.kind_mem_sources
        rw [hnil] at hmem
        cases hmem

/-- Every call of a page is made on the lister of its own place, for a query that the exhibit
accepts. -/
theorem of_mem_calls_servePage {call : TargetCall}
    (h : call ∈ (service.servePage place shown query identity scope now).calls) :
    shown.Accepts query ∧ ∃ bound, service.targets.listerAt identity place = .ok bound ∧
      call.target = bound.target := by
  rw [Run.mem_calls] at h
  rcases service.servePage_cases place shown query identity scope with
    ⟨-, response, heq⟩ | ⟨-, result, heq⟩ | ⟨haccepts, work, heq, -⟩
  · rw [heq] at h
    cases h
  · rw [heq] at h
    cases hplace : service.targets.listerAt identity place with
    | error error => simp [readPlace_of_error _ hplace] at h
    | ok bound => simp [readPlace_of_ok _ hplace] at h
  · rw [heq] at h
    cases hplace : service.targets.listerAt identity place with
    | error error => simp [readPlace_of_error _ hplace] at h
    | ok bound =>
      rw [readPlace_of_ok _ hplace] at h
      simp only [List.mem_cons, reduceCtorEq, List.mem_map, ServiceEvent.called.injEq,
        false_or] at h
      obtain ⟨made, -, rfl⟩ := h
      exact ⟨haccepts, bound, rfl, rfl⟩

/-- Nothing is asked for but the place of the page. -/
theorem eq_request_of_asked_servePage {target : TargetRequest}
    (h : .asked target ∈ (service.servePage place shown query identity scope now).log) :
    target = place.request identity := by
  have hread : ∀ work, .asked target ∈ (service.readPlace place identity work now).log →
      target = place.request identity := by
    intro work h
    cases hplace : service.targets.listerAt identity place with
    | error error => simpa [readPlace_of_error _ hplace] using h
    | ok bound => simpa [readPlace_of_ok _ hplace] using h
  rcases service.servePage_cases place shown query identity scope with
    ⟨-, response, heq⟩ | ⟨-, result, heq⟩ | ⟨-, work, heq, -⟩
  · rw [heq] at h
    cases h
  · exact hread _ (heq ▸ h)
  · exact hread _ (heq ▸ h)

/-- A page that can be reached and whose query is accepted makes a call. -/
theorem exists_mem_calls_servePage (haccepts : shown.Accepts query)
    (hplace : service.targets.listerAt identity place = .ok bound)
    (hlive : scope.isCancelled now = false) :
    ∃ call ∈ (service.servePage place shown query identity scope now).calls,
      call.target = bound.target := by
  rcases service.servePage_cases place shown query identity scope with
    ⟨hrejects, -⟩ | ⟨hrejects, -⟩ | ⟨-, work, heq, hcalls⟩
  · exact absurd haccepts hrejects
  · exact absurd haccepts hrejects
  · obtain ⟨made, hmade⟩ := List.exists_mem_of_ne_nil _ (hcalls bound.lister now hlive)
    refine ⟨⟨bound.target, made⟩, ?_, rfl⟩
    rw [Run.mem_calls, heq, readPlace_of_ok _ hplace]
    exact List.mem_cons_of_mem _ (List.mem_map.2 ⟨made, hmade, rfl⟩)

/-! ## Requests for pages -/

/-- The work of a route that is decoded to a page. -/
theorem work_of_decode (hdecode : route.decode = .ok (.page place shown)) :
    service.work route identity request now =
      service.servePage place shown request.query identity (service.servingScope request now)
        (service.admittance route identity request now).finish := by
  rw [work, serveRoute, hdecode]

/-- Nothing is done for a route that cannot be decoded. -/
theorem work_log_of_flaw {flaw : SegmentFlaw} (hdecode : route.decode = .error flaw) :
    (service.work route identity request now).log = [] := by
  rw [work, serveRoute, hdecode]
  rfl

/-- A call of a page is made for an admitted request, for a route that can be decoded, for a query
that the exhibit accepts, and on the lister of the place alone. -/
theorem of_mem_calls_page {call : TargetCall}
    (hroute : Location.ofPath? request.path = some (.api (.page place shown)))
    (h : call ∈ (service.respond request now).calls) :
    ∃ identity place' shown' bound,
      service.Admitted (.page place shown) identity request now ∧
        place.decode = .ok place' ∧ shown.decode = .ok shown' ∧ shown'.Accepts request.query ∧
        service.targets.listerAt identity place' = .ok bound ∧ call.target = bound.target := by
  obtain ⟨route, identity, hadmitted, hcall⟩ := mem_calls_respond.1 h
  have hsame := hadmitted.atRoute
  rw [hroute, Option.some.injEq, Location.api.injEq] at hsame
  subst hsame
  cases hdecode : (Route.page place shown).decode with
  | error flaw =>
    rw [Run.mem_calls, work_log_of_flaw hdecode] at hcall
    cases hcall
  | ok decoded =>
    obtain ⟨place', shown', hplace, hshown, rfl⟩ := Route.decode_page_eq_ok_iff.1 hdecode
    rw [work_of_decode hdecode] at hcall
    obtain ⟨haccepts, bound, hbound, htarget⟩ := of_mem_calls_servePage hcall
    exact ⟨identity, place', shown', bound, hadmitted, hplace, hshown, haccepts, hbound, htarget⟩

end Service

end FleetDashboard
