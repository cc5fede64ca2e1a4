import FleetDashboard.Api.Router
import FleetDashboard.Proofs.Access.Gate
import FleetDashboard.Proofs.Caller.Authentication
import FleetDashboard.Proofs.Outcome

/-!
# What serving a request comes to

A request on a route of the API passes three doors: authentication, the decision on access, and the
method. Only behind the third is anything asked of a target. What a run leaves in its log is
therefore the work of the route alone, but for the marks that the doors themselves leave.

* `Service.caller`, `Service.servingScope`: who a request acts as, and in which scope it is served.
* `Service.Admitted`: the request is authenticated, has access and only reads.
* `Service.respond_of_unauthenticated`, `Service.respond_of_refused`,
  `Service.respond_of_admitted`: what the response is, door by door.
* `Service.respond_value_of_admitted`: what the response is when nothing of it is left out.
* `Service.mem_log_respond`: work is done for requests that are admitted, and for no others.
-/

namespace FleetDashboard

/-- The calls that a run started, in order. -/
def Run.calls {α : Type} (run : Run ServiceEvent α) : List TargetCall :=
  run.log.filterMap ServiceEvent.call?

/-- A call was started exactly when the log says so. -/
theorem Run.mem_calls {α : Type} {run : Run ServiceEvent α} {call : TargetCall} :
    call ∈ run.calls ↔ .called call ∈ run.log := by
  rw [Run.calls, List.mem_filterMap]
  constructor
  · rintro ⟨event, hevent, hcall⟩
    cases event with
    | called other =>
      cases hcall
      exact hevent
    | _ => cases hcall
  · intro hcall
    exact ⟨_, hcall, rfl⟩

/-- The event concerns a target: one was asked for, called, or given up. -/
def ServiceEvent.IsWork : ServiceEvent → Prop
  | .asked _ => True
  | .called _ => True
  | .retained _ => True
  | _ => False

/-- A route to a page is decoded by decoding the place, then what is shown of it. -/
theorem Route.decode_page_eq_ok_iff {place : Place} {shown : Exhibit} {decoded : Route} :
    (Route.page place shown).decode = .ok decoded ↔
      ∃ place' shown', place.decode = .ok place' ∧ shown.decode = .ok shown' ∧
        decoded = .page place' shown' := by
  have hdecode : (Route.page place shown).decode =
      place.decode >>= fun place => shown.decode >>= fun shown => pure (.page place shown) := rfl
  simp only [hdecode, bind_eq_ok_iff, pure_eq_ok_iff]
  constructor
  · rintro ⟨place', hplace, shown', hshown, rfl⟩
    exact ⟨place', shown', hplace, hshown, rfl⟩
  · rintro ⟨place', shown', hplace, hshown, rfl⟩
    exact ⟨place', hplace, shown', hshown, rfl⟩

/-- A member cluster is decoded by resolving the escapes in its name. -/
theorem Place.decode_member_eq_ok_iff {segment : String} {place : Place} :
    (Place.member segment).decode = .ok place ↔
      ∃ cluster, Text.Percent.decode? segment = some cluster ∧ place = .member cluster := by
  have hdecode : (Place.member segment).decode =
      decodeSegment "cluster" segment >>= fun cluster => pure (.member cluster) := rfl
  simp only [hdecode, bind_eq_ok_iff, pure_eq_ok_iff, decodeSegment]
  cases Text.Percent.decode? segment with
  | none => simp
  | some cluster => simp [eq_comm]

namespace Service

variable {service : Service} {request : HttpRequest} {route : Route} {identity : Identity}
  {user : Option String} {scope : Scope} {segment cluster : String} {shown : Exhibit} {now : Nat}

/-! ## Access to a route -/

/-- The decision on access leaves nothing in the log. -/
@[simp]
theorem authorize_log (service : Service) (route : Route) (user : Option String) (scope : Scope)
    (now : Nat) : (service.authorize route user scope now).log = [] := by
  cases route with
  | overview => rfl
  | page place shown =>
    cases place with
    | controlPlane => rfl
    | management => simp [authorize]
    | member segment =>
      unfold authorize
      cases hdecode : (Route.page (.member segment) shown).decode with
      | error flaw => rfl
      | ok decoded =>
        obtain ⟨place', shown', hplace, -, rfl⟩ := Route.decode_page_eq_ok_iff.1 hdecode
        obtain ⟨cluster, -, rfl⟩ := Place.decode_member_eq_ok_iff.1 hplace
        simp

/-- A member cluster may be used exactly when the route can be decoded and the gate allows the
cluster that it names. -/
theorem authorize_member_eq_ok_iff :
    (service.authorize (.page (.member segment) shown) user scope now).value = .ok () ↔
      ∃ cluster shown', Text.Percent.decode? segment = some cluster ∧ shown.decode = .ok shown' ∧
        (service.gate.check user cluster scope now : Run ServiceEvent _).value = .ok .allow := by
  unfold authorize
  cases hdecode : (Route.page (.member segment) shown).decode with
  | error flaw =>
    -- a route that cannot be decoded is refused before the gate is asked
    simp only [Task.done_run, reduceCtorEq, false_iff]
    rintro ⟨cluster, shown', hcluster, hshown, -⟩
    have hok := Route.decode_page_eq_ok_iff.2
      ⟨_, shown', Place.decode_member_eq_ok_iff.2 ⟨cluster, hcluster, rfl⟩, hshown, rfl⟩
    rw [hdecode] at hok
    cases hok
  | ok decoded =>
    obtain ⟨place', shown', hplace, hshown, rfl⟩ := Route.decode_page_eq_ok_iff.1 hdecode
    obtain ⟨cluster, hcluster, rfl⟩ := Place.decode_member_eq_ok_iff.1 hplace
    simp only [Task.bind_eq_andThen, Task.pure_eq_done, Task.andThen_value, Task.done_run,
      admission, mapError_eq_ok_iff, AccessGate.require_eq_ok_iff, hcluster, hshown]
    constructor
    · intro hallow
      exact ⟨cluster, shown', rfl, rfl, hallow⟩
    · rintro ⟨_, _, ⟨rfl⟩, -, hallow⟩
      exact hallow

/-- The management cluster may be used exactly when the gate grants it. -/
theorem authorize_management_eq_ok_iff :
    (service.authorize (.page .management shown) user scope now).value = .ok () ↔
      (service.gate.requireAdmin user scope now : Run ServiceEvent _).value = .ok () := by
  simp only [authorize, Task.bind_eq_andThen, Task.pure_eq_done, Task.andThen_value, Task.done_run,
    admission, mapError_eq_ok_iff]

/-! ## The doors -/

/-- The authentication of a request that arrives at `now`. -/
def caller (service : Service) (request : HttpRequest) (now : Nat) :
    Run Consultation (Except ClientError Identity) :=
  service.authenticator.authenticate request.headers now

/-- The scope in which a request is served that arrives at `now`. It opens when the request is
authenticated. -/
def servingScope (service : Service) (request : HttpRequest) (now : Nat) : Scope :=
  .lasting (service.caller request now).finish service.requestTimeout

/-- The scope of a request is never cancelled. -/
theorem isCancelled_servingScope (service : Service) (request : HttpRequest) (now moment : Nat) :
    (service.servingScope request now).isCancelled moment = false := rfl

/-- The decision on access to a route, for a request that arrives at `now`. -/
def admittance (service : Service) (route : Route) (identity : Identity) (request : HttpRequest)
    (now : Nat) : Run ServiceEvent (Except HttpResponse Unit) :=
  service.authorize route identity.username (service.servingScope request now)
    (service.caller request now).finish

/-- The work of a route for an admitted request that arrives at `now`. -/
def work (service : Service) (route : Route) (identity : Identity) (request : HttpRequest)
    (now : Nat) : Run ServiceEvent HttpResponse :=
  service.serveRoute route request.query identity (service.servingScope request now)
    (service.admittance route identity request now).finish

/-- The request passes every door as the caller it acts as. -/
structure Admitted (service : Service) (route : Route) (identity : Identity)
    (request : HttpRequest) (now : Nat) : Prop where
  /-- The path is that of the route. -/
  atRoute : Location.ofPath? request.path = some (.api route)
  /-- The caller is known. -/
  known : (service.caller request now).value = .ok identity
  /-- The caller may use the route. -/
  allowed : (service.admittance route identity request now).value = .ok ()
  /-- The method only reads. -/
  reads : request.isRead = true

/-! ## Responses, door by door -/

/-- What is done for a request, between the marks of the doors. -/
def marked (service : Service) (identity : Identity) (request : HttpRequest) (now : Nat)
    (log : List ServiceEvent) : List ServiceEvent :=
  (service.caller request now).log.map .consulted ++
    (.entered identity.username :: log ++ [.left])

/-- A request that is not authenticated is answered with the error, and nothing is done for it. -/
theorem respond_of_unauthenticated {error : ClientError}
    (hroute : Location.ofPath? request.path = some (.api route))
    (hcaller : (service.caller request now).value = .error error) :
    service.respond request now =
      ⟨(HttpResponse.ofError (.client error)).fitted request, (service.caller request now).finish,
        (service.caller request now).log.map .consulted⟩ := by
  unfold caller at *
  ext1 <;>
    simp only [respond, respondFully, hroute, respondApi, Task.bind_eq_andThen, Task.pure_eq_done,
      Task.andThen_value, Task.andThen_finish, Task.andThen_log, Task.mapLog_value,
      Task.mapLog_finish, Task.mapLog_log, hcaller, Task.done_run, List.append_nil]

/-- A request that is authenticated is answered by serving it. -/
theorem respond_of_known (hroute : Location.ofPath? request.path = some (.api route))
    (hcaller : (service.caller request now).value = .ok identity) :
    service.respond request now =
      let served := service.serve route request identity (service.caller request now).finish
      ⟨served.value.fitted request, served.finish,
        service.marked identity request now served.log⟩ := by
  unfold marked caller at *
  ext1 <;>
    simp only [respond, respondFully, hroute, respondApi, Task.bind_eq_andThen, Task.pure_eq_done,
      Task.andThen_value, Task.andThen_finish, Task.andThen_log, Task.mapLog_value,
      Task.mapLog_finish, Task.mapLog_log, hcaller, Task.done_run, Task.note_run, List.append_nil,
      List.nil_append, List.cons_append]

/-- Serving a request begins with the decision on access. -/
theorem serve_eq (service : Service) (route : Route) (identity : Identity) (request : HttpRequest)
    (now : Nat) :
    service.serve route request identity (service.caller request now).finish =
      match (service.admittance route identity request now).value with
      | .error response => ⟨response, (service.admittance route identity request now).finish, []⟩
      | .ok () =>
        if request.isRead then service.work route identity request now
        else ⟨.methodNotAllowed, (service.admittance route identity request now).finish, []⟩ := by
  unfold work admittance servingScope
  -- the scope opens when the caller is known, and access is decided then and there
  generalize (service.caller request now).finish = opened
  cases hadmittance : (service.authorize route identity.username
      (.lasting opened service.requestTimeout) opened).value with
  | error response =>
    ext1 <;>
      simp only [serve, openScope, Task.bind_eq_andThen, Task.pure_eq_done, Task.andThen_value,
        Task.andThen_finish, Task.andThen_log, hadmittance, authorize_log, Task.done_run,
        List.append_nil]
  | ok done =>
    cases hread : request.isRead with
    | false =>
      ext1 <;>
        simp only [serve, openScope, Task.bind_eq_andThen, Task.pure_eq_done, Task.andThen_value,
          Task.andThen_finish, Task.andThen_log, hadmittance, hread, authorize_log, Task.done_run,
          List.append_nil, Bool.false_eq_true, ↓reduceIte]
    | true =>
      ext1 <;>
        simp only [serve, openScope, Task.bind_eq_andThen, Task.andThen_value,
          Task.andThen_finish, Task.andThen_log, hadmittance, hread, authorize_log,
          List.nil_append, ↓reduceIte]

/-- A request that is refused is answered with the refusal, and nothing is done for it. -/
theorem respond_of_refused {response : HttpResponse}
    (hroute : Location.ofPath? request.path = some (.api route))
    (hcaller : (service.caller request now).value = .ok identity)
    (hrefused : (service.admittance route identity request now).value = .error response) :
    service.respond request now =
      ⟨response.fitted request, (service.admittance route identity request now).finish,
        service.marked identity request now []⟩ := by
  rw [respond_of_known hroute hcaller, serve_eq, hrefused]

/-- A request that passes the decision on access and has a method that is not served is answered
with that, and nothing is done for it. -/
theorem respond_of_unread (hroute : Location.ofPath? request.path = some (.api route))
    (hcaller : (service.caller request now).value = .ok identity)
    (hallowed : (service.admittance route identity request now).value = .ok ())
    (hread : request.isRead = false) :
    service.respond request now =
      ⟨HttpResponse.methodNotAllowed.fitted request,
        (service.admittance route identity request now).finish,
        service.marked identity request now []⟩ := by
  rw [respond_of_known hroute hcaller, serve_eq, hallowed, hread]
  rfl

/-- A request that is admitted is answered with the work of the route. -/
theorem respond_of_admitted (h : service.Admitted route identity request now) :
    service.respond request now =
      ⟨(service.work route identity request now).value.fitted request,
        (service.work route identity request now).finish,
        service.marked identity request now (service.work route identity request now).log⟩ := by
  rw [respond_of_known h.atRoute h.known, serve_eq, h.allowed, h.reads]
  rfl

/-- Nothing is left out of a response whose body is wanted. -/
theorem fitted_of_body (hbody : request.wantsNoBody = false) (response : HttpResponse) :
    response.fitted request = response := by
  rw [HttpResponse.fitted, hbody]
  cases response.content <;> rfl

/-- Nothing is left out of an answer to a request with the method `GET`. -/
theorem fitted_of_get (hget : request.method = "GET") (response : HttpResponse) :
    response.fitted request = response := by
  have hwants : request.wantsNoBody = false := by
    rw [HttpRequest.wantsNoBody, hget]
    rfl
  exact fitted_of_body hwants response

theorem isRead_of_get (hget : request.method = "GET") : request.isRead = true := by
  rw [HttpRequest.isRead, hget]
  rfl

/-- The answer to an admitted request is what the work of its route comes to. -/
theorem respond_value_of_admitted (hget : request.method = "GET")
    (h : service.Admitted route identity request now) :
    (service.respond request now).value = (service.work route identity request now).value := by
  rw [respond_of_admitted h, fitted_of_get hget]

/-- On a route of the API one of four things happens to a request. -/
theorem doors (service : Service) (hroute : Location.ofPath? request.path = some (.api route))
    (now : Nat) :
    (∃ error, (service.caller request now).value = .error error) ∨
      ∃ identity, (service.caller request now).value = .ok identity ∧
        ((∃ response, (service.admittance route identity request now).value = .error response) ∨
          (service.admittance route identity request now).value = .ok () ∧
            request.isRead = false ∨
          service.Admitted route identity request now) := by
  cases hcaller : (service.caller request now).value with
  | error error => exact Or.inl ⟨error, rfl⟩
  | ok identity =>
    refine Or.inr ⟨identity, rfl, ?_⟩
    cases hadmittance : (service.admittance route identity request now).value with
    | error response => exact Or.inl ⟨response, rfl⟩
    | ok done =>
      cases hread : request.isRead with
      | false => exact Or.inr (Or.inl ⟨rfl, rfl⟩)
      | true => exact Or.inr (Or.inr ⟨hroute, hcaller, hadmittance, hread⟩)

/-- The marks of the doors are not work. -/
theorem mem_marked {event : ServiceEvent} (hevent : event.IsWork) {log : List ServiceEvent} :
    event ∈ service.marked identity request now log ↔ event ∈ log := by
  unfold marked
  cases event with
  | consulted whom => cases hevent
  | entered user => cases hevent
  | left => cases hevent
  | asked target => simp
  | called call => simp
  | retained registered => simp

/-- Work is done for requests that are admitted, and for no others. -/
theorem mem_log_respond {event : ServiceEvent} (hevent : event.IsWork) :
    event ∈ (service.respond request now).log ↔
      ∃ route identity, service.Admitted route identity request now ∧
        event ∈ (service.work route identity request now).log := by
  constructor
  · intro hmem
    cases hlocation : Location.ofPath? request.path with
    | none => simp [respond, respondFully, hlocation] at hmem
    | some location =>
      cases location with
      | alive => simp [respond, respondFully, hlocation] at hmem
      | ready => simp [respond, respondFully, hlocation] at hmem
      | api route =>
        -- only the last of the four leaves more than marks
        rcases service.doors hlocation now with
          ⟨error, hcaller⟩ | ⟨identity, hcaller, ⟨response, hrefused⟩ | ⟨hallowed, hread⟩ | h⟩
        · rw [respond_of_unauthenticated hlocation hcaller] at hmem
          obtain ⟨whom, -, rfl⟩ := List.mem_map.1 hmem
          cases hevent
        · rw [respond_of_refused hlocation hcaller hrefused] at hmem
          cases (mem_marked hevent).1 hmem
        · rw [respond_of_unread hlocation hcaller hallowed hread] at hmem
          cases (mem_marked hevent).1 hmem
        · rw [respond_of_admitted h] at hmem
          exact ⟨route, identity, h, (mem_marked hevent).1 hmem⟩
  · rintro ⟨route, identity, h, hmem⟩
    rw [respond_of_admitted h]
    exact (mem_marked hevent).2 hmem

/-- A call was started exactly when the work of an admitted request started it. -/
theorem mem_calls_respond {call : TargetCall} :
    call ∈ (service.respond request now).calls ↔
      ∃ route identity, service.Admitted route identity request now ∧
        call ∈ (service.work route identity request now).calls := by
  simp only [Run.mem_calls]
  exact mem_log_respond trivial

end Service

end FleetDashboard
