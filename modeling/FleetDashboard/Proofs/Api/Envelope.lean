import Mathlib.Control.Monad.Basic
import FleetDashboard.Proofs.Api.Overview
import FleetDashboard.Proofs.Api.Refusal

/-!
# The envelope of an answer

Answers of the API are documented to have one form: a document with the status as its code, a
message and the data, which are `success` and what was asked for, or the text of the error and
nothing. Whatever fails behind the doors is answered so, and so are refusals at them. What is not is
a request of which the path or the query cannot be read in the first place: that is answered with a
plain text. Nor is a request for the overview where the member clusters cannot be counted: the work
breaks off, and there is no answer.

* `HttpResponse.envelope`: the documented form.
* `Failure`: why a request is not answered with data; `Failure.IsMalformed` when the request itself
  cannot be read, `Failure.broken` when there is no answer.
* `Service.FailsWith`: what a request fails with, cause by cause.
* `Service.respond_of_failsWith`, `Service.respond_of_not_failsWith`: how it is answered then, and
  how it is answered otherwise.
* `Service.answersEnvelope_iff`: a request is answered in the documented form exactly if it can be
  read and the work for it does not break off.
-/

namespace FleetDashboard

/-- The documented form of an answer. -/
def HttpResponse.envelope (status : Nat) (message : String) (data : Json) : HttpResponse :=
  { status
    content := .document
      (.obj [("code", .nat status), ("message", .str message), ("data", data)]) }

/-- No error is answered under the status of a success. -/
theorem ServiceError.status_ne_ok (error : ServiceError) : error.status ≠ 200 := by
  -- errors of clients and failures of API servers come up at two levels
  have hfailure (kind : FailureKind) : kind.responseStatus ≠ 200 := by
    cases kind <;> decide
  have hclient (error : ClientError) : error.responseStatus ≠ 200 := by
    cases error with
    | server failure => exact hfailure failure.kind
    | _ => exact of_decide_eq_true rfl
  cases error with
  | client error => exact hclient error
  | resource error =>
    cases error with
    | client error => exact hclient error
    | server failure => exact hfailure failure.kind
    | _ => exact of_decide_eq_true rfl
  | _ => exact of_decide_eq_true rfl

/-! ## Failures -/

/-- Why a request is not answered with data. -/
inductive Failure where
  /-- An error ends the request. -/
  | ended (error : ServiceError)
  /-- A segment of the path cannot be read. -/
  | segment (flaw : SegmentFlaw)
  /-- The query cannot be read. -/
  | query (flaw : ListParametersFlaw)
  /-- The work breaks off. -/
  | broken

namespace Failure

/-- The status of the answer, if there is one. -/
def status : Failure → Nat
  | .ended error => error.status
  | .segment _ => 400
  | .query _ => 400
  | .broken => 0

/-- The text of the failure. -/
def message : Failure → String
  | .ended error => error.message
  | .segment flaw => flaw.message
  | .query flaw => flaw.message
  | .broken => ""

/-- The request itself cannot be read. -/
def IsMalformed : Failure → Prop
  | .ended _ => False
  | .segment _ => True
  | .query _ => True
  | .broken => False

/-- The answer that a failure gets. -/
def response : Failure → HttpResponse
  | .ended error => .ofError error
  | .segment flaw => .malformed flaw.message
  | .query flaw => .malformed flaw.message
  | .broken => .broken

theorem status_ne_ok (failure : Failure) : failure.status ≠ 200 := by
  cases failure with
  | ended error => exact error.status_ne_ok
  | segment flaw => exact of_decide_eq_true rfl
  | query flaw => exact of_decide_eq_true rfl
  | broken => exact of_decide_eq_true rfl

/-- A failure is answered in the documented form exactly if the request can be read and there is an
answer. -/
theorem response_eq_envelope_iff {failure : Failure} :
    failure.response = .envelope failure.status failure.message .null ↔
      ¬ failure.IsMalformed ∧ failure ≠ .broken := by
  -- neither a plain text nor nothing at all is a document
  cases failure with
  | ended error => exact iff_of_true rfl ⟨id, nofun⟩
  | segment flaw => exact iff_of_false (nomatch congrArg HttpResponse.content ·) (·.1 trivial)
  | query flaw => exact iff_of_false (nomatch congrArg HttpResponse.content ·) (·.1 trivial)
  | broken => exact iff_of_false (nomatch congrArg HttpResponse.content ·) (·.2 rfl)

end Failure

/-! ## What is read for a route -/

/-- The parameters that an exhibit takes from a query; only lists take any. -/
def Exhibit.parameters (query : Option String) : Exhibit → Except ListParametersFlaw ListParameters
  | .list _ _ => ListParameters.parse (query.getD "")
  | _ => .ok .empty

namespace Service

variable {service : Service} {request : HttpRequest} {route : Route} {identity : Identity}
  {place : Place} {shown : Exhibit} {query : Option String} {scope : Scope} {failure : Failure}
  {now : Nat}

/-- What is read for an exhibit on the lister of its place. -/
def reading (service : Service) (shown : Exhibit) (parameters : ListParameters) (scope : Scope)
    (lister : Lister) : Task Call (ViewResult Json) :=
  match shown with
  | .list view inNamespace =>
    match parameters.selection with
    | .error flaw => .done (.error (.ofQueryFlaw flaw))
    | .ok selection =>
      view.document {
        lister
        wanted := .parse inNamespace
        query := selection
        scope
        pageCap := service.pageCap }
  | .pod inNamespace name => do
    let pod ← podDetail lister inNamespace name scope
    return pod.map Pod.toJson
  | .replicaSet inNamespace name => do
    let set ← replicaSetDetail lister inNamespace name scope
    return set.map Item.toJson

/-- A page is what is read for it, once its parameters are. -/
theorem servePage_eq (service : Service) (place : Place) (shown : Exhibit) (query : Option String)
    (identity : Identity) (scope : Scope) :
    service.servePage place shown query identity scope =
      match shown.parameters query with
      | .error flaw => .done (.malformed flaw.message)
      | .ok parameters =>
        service.readPlace place identity (service.reading shown parameters scope) := by
  cases shown with
  | list view inNamespace => rfl
  | pod inNamespace name => rfl
  | replicaSet inNamespace name => rfl

/-! ## Refusals of the gate -/

/-- The gate refuses the caller the cluster that a route names. -/
def GateRefuses (service : Service) (route : Route) (identity : Identity) (request : HttpRequest)
    (now : Nat) (error : ClientError) : Prop :=
  let scope := service.servingScope request now
  let start := (service.caller request now).finish
  match route with
  | .page (.member segment) shown => ∃ cluster shown',
      (Route.page (.member segment) shown).decode = .ok (.page (.member cluster) shown') ∧
        (service.gate.require identity.username cluster scope start : Run ServiceEvent _).value =
          .error error
  | .page .management _ =>
    (service.gate.requireAdmin identity.username scope start : Run ServiceEvent _).value =
      .error error
  | _ => False

/-- A decision is answered as an error exactly if it is one. -/
theorem admission_eq_error_iff {outcome : Except ClientError Unit} {response : HttpResponse} :
    admission outcome = .error response ↔
      ∃ error, outcome = .error error ∧ response = .ofError (.client error) := by
  cases outcome with
  | error error =>
    constructor
    · rintro ⟨⟩
      exact ⟨error, rfl, rfl⟩
    · rintro ⟨_, ⟨⟩, rfl⟩
      rfl
  | ok done => exact iff_of_false (fun h => nomatch h) fun ⟨_, h, _⟩ => nomatch h

/-- The decision on a page of the management cluster is that of the gate. -/
theorem admittance_management (service : Service) (shown : Exhibit) (identity : Identity)
    (request : HttpRequest) (now : Nat) :
    (service.admittance (.page .management shown) identity request now).value =
      admission (service.gate.requireAdmin identity.username (service.servingScope request now)
        (service.caller request now).finish : Run ServiceEvent _).value := by
  simp only [admittance, authorize, Task.bind_eq_andThen, Task.pure_eq_done, Task.andThen_value,
    Task.done_run]

/-- The decision on a page of a member cluster is that of the gate, once the path is read. -/
theorem admittance_member {segment cluster : String} {shown' : Exhibit}
    (hdecode : (Route.page (.member segment) shown).decode = .ok (.page (.member cluster) shown')) :
    (service.admittance (.page (.member segment) shown) identity request now).value =
      admission (service.gate.require identity.username cluster (service.servingScope request now)
        (service.caller request now).finish : Run ServiceEvent _).value := by
  simp only [admittance, authorize, hdecode, Task.bind_eq_andThen, Task.pure_eq_done,
    Task.andThen_value, Task.done_run]

/-- A refusal of the gate is the error that access is denied with. -/
theorem admittance_of_gateRefuses {error : ClientError}
    (h : service.GateRefuses route identity request now error) :
    (service.admittance route identity request now).value =
      .error (.ofError (.client error)) := by
  cases route with
  | overview => cases h
  | page place shown =>
    cases place with
    | controlPlane => cases h
    | management =>
      rw [admittance_management]
      exact admission_eq_error_iff.2 ⟨error, h, rfl⟩
    | member segment =>
      obtain ⟨cluster, shown', hdecode, hrefused⟩ := h
      rw [admittance_member hdecode]
      exact admission_eq_error_iff.2 ⟨error, hrefused, rfl⟩

/-- Access is denied by the gate, or because the path cannot be read. -/
theorem of_admittance_eq_error {response : HttpResponse}
    (h : (service.admittance route identity request now).value = .error response) :
    (∃ error, service.GateRefuses route identity request now error) ∨
      ∃ flaw, route.decode = .error flaw ∧ response = .malformed flaw.message := by
  cases route with
  | overview => cases h
  | page place shown =>
    cases place with
    | controlPlane => cases h
    | management =>
      rw [admittance_management] at h
      obtain ⟨error, hadmin, -⟩ := admission_eq_error_iff.1 h
      exact Or.inl ⟨error, hadmin⟩
    | member segment =>
      cases hdecode : (Route.page (.member segment) shown).decode with
      | error flaw =>
        simp only [admittance, authorize, hdecode, Task.done_run, Except.error.injEq] at h
        exact Or.inr ⟨flaw, rfl, h.symm⟩
      | ok decoded =>
        obtain ⟨place', shown', hplace, -, rfl⟩ := Route.decode_page_eq_ok_iff.1 hdecode
        obtain ⟨cluster, -, rfl⟩ := Place.decode_member_eq_ok_iff.1 hplace
        rw [admittance_member hdecode] at h
        obtain ⟨error, hrequire, -⟩ := admission_eq_error_iff.1 h
        exact Or.inl ⟨error, cluster, shown', hdecode, hrequire⟩

/-! ## What a request fails with -/

/-- What a request on a route fails with, cause by cause. -/
inductive FailsWith (service : Service) (route : Route) (request : HttpRequest) (now : Nat) :
    Failure → Prop
  /-- The caller is not authenticated. -/
  | caller {error : ClientError} (hcaller : (service.caller request now).value = .error error) :
    FailsWith service route request now (.ended (.client error))
  /-- The gate refuses the caller. -/
  | gate {identity : Identity} {error : ClientError}
    (hknown : (service.caller request now).value = .ok identity)
    (hrefused : service.GateRefuses route identity request now error) :
    FailsWith service route request now (.ended (.client error))
  /-- The gate does not refuse the caller, but the path cannot be read. -/
  | segment {identity : Identity} {flaw : SegmentFlaw}
    (hknown : (service.caller request now).value = .ok identity)
    (hgate : ∀ error, ¬ service.GateRefuses route identity request now error)
    (hflaw : route.decode = .error flaw) :
    FailsWith service route request now (.segment flaw)
  /-- The query cannot be read. -/
  | query {identity : Identity} {place : Place} {shown : Exhibit} {flaw : ListParametersFlaw}
    (hadmitted : service.Admitted route identity request now)
    (hdecode : route.decode = .ok (.page place shown))
    (hflaw : shown.parameters request.query = .error flaw) :
    FailsWith service route request now (.query flaw)
  /-- The place of a page cannot be reached. -/
  | target {identity : Identity} {place : Place} {shown : Exhibit} {parameters : ListParameters}
    {error : ClientError} (hadmitted : service.Admitted route identity request now)
    (hdecode : route.decode = .ok (.page place shown))
    (hparameters : shown.parameters request.query = .ok parameters)
    (htarget : service.targets.listerAt identity place = .error error) :
    FailsWith service route request now (.ended (.client error))
  /-- What is read of the place fails: a selection is malformed, the API server fails or is late, or
  an object cannot be decoded. -/
  | page {identity : Identity} {place : Place} {shown : Exhibit} {parameters : ListParameters}
    {bound : BoundLister} {error : ResourceError}
    (hadmitted : service.Admitted route identity request now)
    (hdecode : route.decode = .ok (.page place shown))
    (hparameters : shown.parameters request.query = .ok parameters)
    (htarget : service.targets.listerAt identity place = .ok bound)
    (hread : (service.reading shown parameters (service.servingScope request now) bound.lister
      (service.admittance route identity request now).finish).value = .error error) :
    FailsWith service route request now (.ended (.resource error))
  /-- The control plane cannot be reached for the overview. -/
  | controlPlane {identity : Identity} {error : ClientError}
    (hadmitted : service.Admitted route identity request now) (hroute : route = .overview)
    (hplane : service.targets.controlPlane identity = .error error) :
    FailsWith service route request now (.ended (.client error))
  /-- A part of the overview fails that is read from the control plane, that about the member
  clusters first. -/
  | part {identity : Identity} {bound : BoundLister} {error : ResourceError}
    (hadmitted : service.Admitted route identity request now) (hroute : route = .overview)
    (hplane : service.targets.controlPlane identity = .ok bound)
    (hpart : (service.memberPart bound identity.username (service.servingScope request now)
        (service.caller request now).finish).value = .error error ∨
      (∃ members, (service.memberPart bound identity.username (service.servingScope request now)
        (service.caller request now).finish).value = .ok (some members)) ∧
        (resourcePart bound (service.servingScope request now)
          (service.caller request now).finish).value = .error error) :
    FailsWith service route request now (.ended (.resource error))
  /-- The clusters that the overview is to sum up cannot be counted. -/
  | uncounted {identity : Identity} {bound : BoundLister}
    (hadmitted : service.Admitted route identity request now) (hroute : route = .overview)
    (hplane : service.targets.controlPlane identity = .ok bound)
    (hmembers : (service.memberPart bound identity.username (service.servingScope request now)
      (service.caller request now).finish).value = .ok none) :
    FailsWith service route request now .broken

/-- A request that is malformed has a path or a query that cannot be read. -/
theorem FailsWith.flaw_of_isMalformed (h : service.FailsWith route request now failure)
    (hmalformed : failure.IsMalformed) :
    (∃ flaw, route.decode = .error flaw) ∨
      ∃ place shown flaw, route.decode = .ok (.page place shown) ∧
        shown.parameters request.query = .error flaw := by
  cases h with
  | segment _ _ hflaw => exact Or.inl ⟨_, hflaw⟩
  | query _ hdecode hflaw => exact Or.inr ⟨_, _, _, hdecode, hflaw⟩
  | _ => exact hmalformed.elim

/-! ## How it is answered -/

/-- The answer to a request for a page, once its parameters are read. -/
theorem respond_value_of_parameters {parameters : ListParameters} (hget : request.method = "GET")
    (h : service.Admitted route identity request now)
    (hdecode : route.decode = .ok (.page place shown))
    (hparameters : shown.parameters request.query = .ok parameters) :
    (service.respond request now).value =
      (service.readPlace place identity
        (service.reading shown parameters (service.servingScope request now))
        (service.admittance route identity request now).finish).value := by
  rw [respond_value_of_admitted hget h, work_of_decode hdecode, servePage_eq, hparameters]

/-- Whatever a request fails with is answered as that failure. -/
theorem respond_of_failsWith (hroute : Location.ofPath? request.path = some (.api route))
    (hget : request.method = "GET") (h : service.FailsWith route request now failure) :
    (service.respond request now).value = failure.response := by
  cases h with
  -- at a door the request is answered before anything is read for it
  | caller hcaller =>
    rw [respond_of_unauthenticated hroute hcaller, fitted_of_get hget]
    rfl
  | gate hknown hrefused =>
    rw [respond_of_refused hroute hknown (admittance_of_gateRefuses hrefused), fitted_of_get hget]
    rfl
  | @segment identity flaw hknown hgate hflaw =>
    -- the path is read for the decision on access, or when that is had
    cases hadmittance : (service.admittance route identity request now).value with
    | error response =>
      rw [respond_of_refused hroute hknown hadmittance, fitted_of_get hget]
      rcases of_admittance_eq_error hadmittance with ⟨error, hrefused⟩ | ⟨other, hother, rfl⟩
      · exact absurd hrefused (hgate error)
      · rw [hflaw, Except.error.injEq] at hother
        rw [hother]
        rfl
    | ok done =>
      have hadmitted : service.Admitted route identity request now :=
        ⟨hroute, hknown, hadmittance, isRead_of_get hget⟩
      rw [respond_value_of_admitted hget hadmitted, work, serveRoute, hflaw]
      rfl
  -- behind the doors the answer is that of the work, which stops at the first thing to fail
  | query hadmitted hdecode hflaw =>
    rw [respond_value_of_admitted hget hadmitted, work_of_decode hdecode, servePage_eq, hflaw]
    rfl
  | target hadmitted hdecode hparameters htarget =>
    rw [respond_value_of_parameters hget hadmitted hdecode hparameters,
      readPlace_of_error _ htarget]
    rfl
  | page hadmitted hdecode hparameters htarget hread =>
    rw [respond_value_of_parameters hget hadmitted hdecode hparameters, readPlace_of_ok _ htarget,
      hread]
    rfl
  | controlPlane hadmitted hoverview hplane =>
    subst hoverview
    rw [respond_value_of_admitted hget hadmitted, work_overview, overview_of_unreached hplane]
    rfl
  | part hadmitted hoverview hplane hpart =>
    subst hoverview
    rw [respond_value_of_admitted hget hadmitted, work_overview, overview_of_failed hplane hpart]
    rfl
  | uncounted hadmitted hoverview hplane hmembers =>
    subst hoverview
    rw [respond_value_of_admitted hget hadmitted, work_overview,
      overview_of_uncounted hplane hmembers]
    rfl

/-- An admitted request for a page that fails with nothing is answered with data. -/
theorem respond_page_of_not_failsWith (hget : request.method = "GET")
    (hadmitted : service.Admitted route identity request now)
    (hdecode : route.decode = .ok (.page place shown))
    (h : ∀ failure, ¬ service.FailsWith route request now failure) :
    ∃ data, (service.respond request now).value = .success data := by
  cases hparameters : shown.parameters request.query with
  | error flaw => exact absurd (.query hadmitted hdecode hparameters) (h _)
  | ok parameters =>
    cases htarget : service.targets.listerAt identity place with
    | error error => exact absurd (.target hadmitted hdecode hparameters htarget) (h _)
    | ok bound =>
      rw [respond_value_of_parameters hget hadmitted hdecode hparameters, readPlace_of_ok _ htarget]
      cases hread : (service.reading shown parameters (service.servingScope request now)
          bound.lister (service.admittance route identity request now).finish).value with
      | error error => exact absurd (.page hadmitted hdecode hparameters htarget hread) (h _)
      | ok data => exact ⟨data, rfl⟩

/-- An admitted request for the overview that fails with nothing is answered with data. -/
theorem respond_overview_of_not_failsWith (hget : request.method = "GET")
    (hadmitted : service.Admitted .overview identity request now)
    (h : ∀ failure, ¬ service.FailsWith .overview request now failure) :
    ∃ data, (service.respond request now).value = .success data := by
  rw [respond_value_of_admitted hget hadmitted, work_overview]
  cases hplane : service.targets.controlPlane identity with
  | error error => exact absurd (.controlPlane hadmitted rfl hplane) (h _)
  | ok bound =>
    rcases hmembers : (service.memberPart bound identity.username
        (service.servingScope request now) (service.caller request now).finish).value with
      error | (_ | members)
    · exact absurd (.part hadmitted rfl hplane (Or.inl hmembers)) (h _)
    · exact absurd (.uncounted hadmitted rfl hplane hmembers) (h _)
    · cases hresources : (resourcePart bound (service.servingScope request now)
          (service.caller request now).finish).value with
      | error error =>
        exact absurd (.part hadmitted rfl hplane (Or.inr ⟨⟨members, hmembers⟩, hresources⟩)) (h _)
      | ok resources =>
        rw [overview_of_ok hplane hmembers hresources]
        exact ⟨_, rfl⟩

/-- A request that fails with nothing is answered with data. -/
theorem respond_of_not_failsWith (hroute : Location.ofPath? request.path = some (.api route))
    (hget : request.method = "GET")
    (h : ∀ failure, ¬ service.FailsWith route request now failure) :
    ∃ data, (service.respond request now).value = .success data := by
  rcases service.doors hroute now with
    ⟨error, hcaller⟩ | ⟨identity, hknown, ⟨response, hrefused⟩ | ⟨-, hread⟩ | hadmitted⟩
  · exact absurd (.caller hcaller) (h _)
  · -- access is denied either by the gate or because the path cannot be read, and both are failures
    have hgate : ∀ error, ¬ service.GateRefuses route identity request now error :=
      fun error hrefuses => h _ (.gate hknown hrefuses)
    rcases of_admittance_eq_error hrefused with ⟨error, hrefuses⟩ | ⟨flaw, hflaw, -⟩
    · exact absurd hrefuses (hgate error)
    · exact absurd (.segment hknown hgate hflaw) (h _)
  · -- a GET request only reads
    rw [isRead_of_get hget] at hread
    cases hread
  · have hgate : ∀ error, ¬ service.GateRefuses route identity request now error :=
      fun error hrefuses => h _ (.gate hadmitted.known hrefuses)
    cases hdecode : route.decode with
    | error flaw => exact absurd (.segment hadmitted.known hgate hdecode) (h _)
    | ok decoded =>
      cases route with
      | overview => exact respond_overview_of_not_failsWith hget hadmitted h
      | page place shown =>
        obtain ⟨place', shown', -, -, rfl⟩ := Route.decode_page_eq_ok_iff.1 hdecode
        exact respond_page_of_not_failsWith hget hadmitted hdecode h

/-! ## The documented form -/

/-- The answer to a request on a route has the documented form. -/
structure AnswersEnvelope (service : Service) (route : Route) (request : HttpRequest)
    (now : Nat) : Prop where
  /-- Whatever the request fails with, its status and its text are answered, and no data. -/
  failed : ∀ failure, service.FailsWith route request now failure →
    (service.respond request now).value =
        .envelope failure.status failure.message .null ∧
      failure.status ≠ 200
  /-- If it fails with nothing, data are answered, as a success. -/
  succeeded : (∀ failure, ¬ service.FailsWith route request now failure) →
    ∃ data, (service.respond request now).value = .envelope 200 "success" data

/-- On every route, a request is answered in the documented form exactly if its path and its query
can be read, or it fails before they are, and the work for it does not break off. -/
theorem answersEnvelope_iff (hroute : Location.ofPath? request.path = some (.api route))
    (hget : request.method = "GET") :
    service.AnswersEnvelope route request now ↔
      ∀ failure, service.FailsWith route request now failure →
        ¬ failure.IsMalformed ∧ failure ≠ .broken := by
  constructor
  · -- the answer is that of the failure, so it has the documented form only if that has
    intro hanswers failure hfails
    rw [← Failure.response_eq_envelope_iff, ← respond_of_failsWith hroute hget hfails]
    exact (hanswers.failed failure hfails).1
  · intro hread
    refine ⟨fun failure hfails => ⟨?_, failure.status_ne_ok⟩, fun hnone => ?_⟩
    · rw [respond_of_failsWith hroute hget hfails]
      exact Failure.response_eq_envelope_iff.2 (hread failure hfails)
    · exact respond_of_not_failsWith hroute hget hnone

/-- The pods of a member are answered in the documented form. -/
theorem answersEnvelope_memberPodsRequest :
    Location.ofPath? memberPodsRequest.path =
        some (.api (.page (.member "member%31") (.list .pods none))) ∧
      memberPodsRequest.method = "GET" ∧
      ofOneMember.AnswersEnvelope (.page (.member "member%31") (.list .pods none))
        memberPodsRequest 0 := by
  have hroute : Location.ofPath? memberPodsRequest.path =
      some (.api (.page (.member "member%31") (.list .pods none))) := by decide +kernel
  have hdecode : (Route.page (.member "member%31") (.list .pods none)).decode =
      .ok (.page (.member "member1") (.list .pods none)) := by decide +kernel
  refine ⟨hroute, rfl, (answersEnvelope_iff hroute rfl).2 fun failure hfails => ⟨?_, ?_⟩⟩
  · intro hmalformed
    rcases hfails.flaw_of_isMalformed hmalformed with
      ⟨flaw, hflaw⟩ | ⟨place, shown, flaw, hpage, hflaw⟩
    · rw [hdecode] at hflaw
      cases hflaw
    · -- there is no query, and nothing is wrong with that
      have hparameters : (Exhibit.list .pods none).parameters none = .ok .empty := rfl
      rw [hdecode, Except.ok.injEq, Route.page.injEq] at hpage
      rw [← hpage.2] at hflaw
      cases hparameters.symm.trans hflaw
  · -- only the overview breaks off
    rintro rfl
    cases hfails with
    | uncounted _ hoverview => cases hoverview

/-- The secrets of the control plane, on a page whose number is none. -/
def misnumberedRequest : HttpRequest :=
  { method := "GET"
    path := "/api/v1/secret"
    query := some "page=abc"
    headers := [("Authorization", "Bearer token")] }

/-- It is not the case that every answer has the documented form: a query that cannot be read is
answered with a plain text. -/
theorem not_answersEnvelope_of_misnumbered :
    ¬ ∀ (service : Service) (route : Route) (request : HttpRequest) (now : Nat),
      Location.ofPath? request.path = some (.api route) → request.method = "GET" →
      service.AnswersEnvelope route request now := by
  intro h
  have hroute : Location.ofPath? misnumberedRequest.path =
      some (.api (.page .controlPlane (.list .secrets none))) := by decide +kernel
  have hadmitted : ofOneMember.Admitted (.page .controlPlane (.list .secrets none))
      (.ofToken "token") misnumberedRequest 0 := ⟨hroute, rfl, rfl, rfl⟩
  have hfails : ofOneMember.FailsWith (.page .controlPlane (.list .secrets none))
      misnumberedRequest 0 (.query (.number "page" .digit)) :=
    .query hadmitted rfl (by decide +kernel)
  have hform := ((h ofOneMember _ misnumberedRequest 0 hroute rfl).failed _ hfails).1
  rw [respond_of_failsWith hroute rfl hfails] at hform
  exact (Failure.response_eq_envelope_iff.1 hform).1 trivial

end Service

end FleetDashboard
