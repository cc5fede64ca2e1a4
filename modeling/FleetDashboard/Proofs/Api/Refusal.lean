import FleetDashboard.Proofs.Api.Pages

/-!
# Refusal before effect

Whatever is wrong with a request, it is refused before anything is done for it: a caller who is not
authenticated, a cluster that the gate does not allow, a management route without admin rights, and
a malformed selection all keep every call from being made. And since nothing is done, nothing that
the targets hold shows in the refusal.

* `Service.Refuses`: the request is turned away by authentication or by the gate.
* `Service.RefusesFirst`: what refusal before effect amounts to for one request.
* `Service.refusesFirst_of_route`: it holds of every request to a route of the API.
-/

namespace FleetDashboard

namespace Service

variable {service : Service} {request : HttpRequest} {route : Route} {identity : Identity}
  {place : Place} {shown : Exhibit} {targets : Targets} {now : Nat}

/-! ## Other targets -/

/-- Access is decided without regard to the targets. -/
theorem admittance_targets (service : Service) (targets : Targets) (route : Route)
    (identity : Identity) (request : HttpRequest) (now : Nat) :
    { service with targets }.admittance route identity request now =
      service.admittance route identity request now := by
  cases route with
  | overview => rfl
  | page place shown => cases place <;> rfl

/-- An admitted request is admitted whatever the targets. -/
theorem Admitted.with_targets (h : service.Admitted route identity request now)
    (targets : Targets) : { service with targets }.Admitted route identity request now where
  atRoute := h.atRoute
  known := h.known
  allowed := (service.admittance_targets targets route identity request now).symm ▸ h.allowed
  reads := h.reads

/-- The response for a page depends on the lister of its own place alone. -/
theorem respond_congr_of_page (h : service.Admitted route identity request now)
    (hdecode : route.decode = .ok (.page place shown))
    (hsame : targets.listerAt identity place = service.targets.listerAt identity place) :
    { service with targets }.respond request now = service.respond request now := by
  have hwork : { service with targets }.work route identity request now =
      service.work route identity request now := by
    rw [work_of_decode hdecode, work_of_decode hdecode, servePage_congr hsame, admittance_targets]
    rfl
  rw [respond_of_admitted h, respond_of_admitted (h.with_targets targets), hwork]
  rfl

/-! ## Refusals -/

/-- The request is turned away: its caller is not authenticated, the gate does not allow the member
cluster that it names, or it asks for the management cluster without admin rights. -/
inductive Refuses (service : Service) (route : Route) (request : HttpRequest) (now : Nat) : Prop
  /-- The caller is not authenticated. -/
  | caller (error : ClientError) (hcaller : (service.caller request now).value = .error error)
  /-- The gate does not allow the member cluster. -/
  | member (segment cluster : String) (shown : Exhibit) (identity : Identity)
    (hroute : route = .page (.member segment) shown)
    (hcluster : Text.Percent.decode? segment = some cluster)
    (hcaller : (service.caller request now).value = .ok identity)
    (hcheck : (service.gate.check identity.username cluster (service.servingScope request now)
      (service.caller request now).finish : Run ServiceEvent _).value ≠ .ok .allow)
  /-- There are no admin rights. -/
  | management (shown : Exhibit) (identity : Identity) (hroute : route = .page .management shown)
    (hcaller : (service.caller request now).value = .ok identity)
    (hadmin : (service.gate.requireAdmin identity.username (service.servingScope request now)
      (service.caller request now).finish : Run ServiceEvent _).value ≠ .ok ())

/-- A request that is turned away fails at authentication or at the decision on access. -/
theorem Refuses.doors (h : service.Refuses route request now) :
    (∃ error, (service.caller request now).value = .error error) ∨
      ∃ identity response, (service.caller request now).value = .ok identity ∧
        (service.admittance route identity request now).value = .error response := by
  have hrefused : ∀ identity, (service.admittance route identity request now).value ≠ .ok () →
      ∃ response, (service.admittance route identity request now).value = .error response := by
    intro identity hne
    cases hvalue : (service.admittance route identity request now).value with
    | error response => exact ⟨response, rfl⟩
    | ok done => exact absurd hvalue hne
  cases h with
  | caller error hcaller => exact Or.inl ⟨error, hcaller⟩
  | member segment cluster shown identity hroute hcluster hcaller hcheck =>
    subst hroute
    obtain ⟨response, hresponse⟩ := hrefused identity fun hok => by
      obtain ⟨other, -, hother, -, hallow⟩ := authorize_member_eq_ok_iff.1 hok
      rw [hcluster, Option.some.injEq] at hother
      exact hcheck (hother ▸ hallow)
    exact Or.inr ⟨identity, response, hcaller, hresponse⟩
  | management shown identity hroute hcaller hadmin =>
    subst hroute
    obtain ⟨response, hresponse⟩ := hrefused identity fun hok =>
      hadmin (authorize_management_eq_ok_iff.1 hok)
    exact Or.inr ⟨identity, response, hcaller, hresponse⟩

/-- The run of a request that is turned away is the same whatever the targets. -/
theorem Refuses.respond_targets (h : service.Refuses route request now)
    (hroute : Location.ofPath? request.path = some (.api route)) (targets : Targets) :
    { service with targets }.respond request now = service.respond request now := by
  rcases h.doors with ⟨error, hcaller⟩ | ⟨identity, response, hcaller, hrefused⟩
  · have hcaller' : ({ service with targets }.caller request now).value = .error error := hcaller
    rw [respond_of_unauthenticated hroute hcaller, respond_of_unauthenticated hroute hcaller']
    rfl
  · have hcaller' : ({ service with targets }.caller request now).value = .ok identity := hcaller
    have hrefused' : ({ service with targets }.admittance route identity request now).value =
        .error response := by rw [admittance_targets, hrefused]
    rw [respond_of_refused hroute hcaller hrefused, respond_of_refused hroute hcaller' hrefused',
      admittance_targets]
    rfl

/-! ## Refusal before effect -/

/-- What refusal before effect amounts to for a request on a route. -/
structure RefusesFirst (service : Service) (route : Route) (request : HttpRequest) (now : Nat) :
    Prop where
  /-- Who is not authenticated gets the status for that, and no call is made. -/
  unauthenticated : ∀ error, (service.caller request now).value = .error error →
    (service.respond request now).value.status = 401 ∧ (service.respond request now).calls = []
  /-- For a member cluster calls are made only if the gate allows the caller, under the name that
  authentication found, the cluster that the path names when its escapes are resolved. They are made
  on the lister of that cluster; nothing else is asked for, and no other target has any bearing on
  the run. -/
  member : ∀ segment shown, route = .page (.member segment) shown →
    ∀ call ∈ (service.respond request now).calls,
      ∃ identity cluster bound, (service.caller request now).value = .ok identity ∧
        Text.Percent.decode? segment = some cluster ∧
        (service.gate.check identity.username cluster (service.servingScope request now)
          (service.caller request now).finish : Run ServiceEvent _).value = .ok .allow ∧
        service.targets.member cluster = .ok bound ∧ call.target = bound.target ∧
        (∀ target, .asked target ∈ (service.respond request now).log →
          target = .member cluster) ∧
        ∀ targets : Targets, targets.member cluster = service.targets.member cluster →
          { service with targets }.respond request now = service.respond request now
  /-- For the management cluster calls are made only with admin rights. -/
  management : ∀ shown, route = .page .management shown →
    ∀ call ∈ (service.respond request now).calls,
      ∃ identity, (service.caller request now).value = .ok identity ∧
        (service.gate.requireAdmin identity.username (service.servingScope request now)
          (service.caller request now).finish : Run ServiceEvent _).value = .ok ()
  /-- For a list with a malformed selection no call is made, wherever it is read. -/
  selection : ∀ place view inNamespace parameters flaw,
    route = .page place (.list view inNamespace) →
    ListParameters.parse (request.query.getD "") = .ok parameters →
    parameters.selection = .error flaw → (service.respond request now).calls = []
  /-- Of a request that is turned away nothing depends on the targets, neither the status and the
  body nor when they come. -/
  unobserved : service.Refuses route request now → ∀ targets : Targets,
    { service with targets }.respond request now = service.respond request now

/-- Every request on a route of the API is refused, if it is, before any effect. -/
theorem refusesFirst_of_route (service : Service) (request : HttpRequest) (now : Nat)
    {route : Route} (hroute : Location.ofPath? request.path = some (.api route)) :
    service.RefusesFirst route request now where
  unauthenticated := by
    intro error hcaller
    obtain ⟨reason, rfl⟩ := Authenticator.eq_unauthorized_of_authenticate hcaller
    have hrun := respond_of_unauthenticated hroute hcaller
    refine ⟨?_, ?_⟩
    · rw [hrun, HttpResponse.status_fitted]
      rfl
    · rw [List.eq_nil_iff_forall_not_mem]
      intro call hcall
      rw [Run.mem_calls, hrun] at hcall
      obtain ⟨whom, -, hwhom⟩ := List.mem_map.1 hcall
      cases hwhom
  member := by
    rintro segment shown rfl call hcall
    obtain ⟨identity, place', shown', bound, hadmitted, hplace, hshown, -, hbound, htarget⟩ :=
      of_mem_calls_page hroute hcall
    obtain ⟨cluster, hcluster, rfl⟩ := Place.decode_member_eq_ok_iff.1 hplace
    have hdecode := Route.decode_page_eq_ok_iff.2 ⟨_, _, hplace, hshown, rfl⟩
    -- the segment is decoded twice, for the gate and for the target, to the same cluster
    obtain ⟨other, -, hother, -, hallow⟩ := authorize_member_eq_ok_iff.1 hadmitted.allowed
    rw [hcluster, Option.some.injEq] at hother
    subst hother
    refine ⟨identity, cluster, bound, hadmitted.known, hcluster, hallow, hbound, htarget, ?_, ?_⟩
    · intro target hasked
      rw [respond_of_admitted hadmitted] at hasked
      have hevent : (ServiceEvent.asked target).IsWork := trivial
      have hwork := (mem_marked hevent).1 hasked
      rw [work_of_decode hdecode] at hwork
      exact eq_request_of_asked_servePage hwork
    · intro targets hsame
      exact respond_congr_of_page hadmitted hdecode hsame
  management := by
    rintro shown rfl call hcall
    obtain ⟨identity, -, -, -, hadmitted, -⟩ := of_mem_calls_page hroute hcall
    exact ⟨identity, hadmitted.known, authorize_management_eq_ok_iff.1 hadmitted.allowed⟩
  selection := by
    rintro place view inNamespace parameters flaw rfl hparse hselection
    rw [List.eq_nil_iff_forall_not_mem]
    intro call hcall
    obtain ⟨identity, place', shown', bound, -, -, hshown, haccepts, -⟩ :=
      of_mem_calls_page hroute hcall
    obtain ⟨_, query, hparse', hquery⟩ := (Exhibit.accepts_of_decode hshown).1 haccepts
    rw [hparse, Except.ok.injEq] at hparse'
    subst hparse'
    rw [hselection] at hquery
    cases hquery
  unobserved := fun h targets => h.respond_targets hroute targets

/-- A service whose policy grants `alice` one member cluster, which holds nothing. -/
def ofOneMember : Service :=
  let lister : Lister :=
    { list := fun _ _ => .done (.answer [])
      get := fun _ _ name => .done (.error (.plain .notFound name)) }
  { targets := {
      controlPlane := fun _ => .error (.notInitialized "control-plane")
      member := fun name =>
        if name = "member1" then .ok { target := .member name, lister }
        else .error (.config ("unknown member " ++ name))
      management := .error (.notInitialized "api-server")
      manager := .error (.notInitialized "api-server")
      isReady := false }
    authenticator := { store := none, resolver := none, lookupTimeout := 5000 }
    gate := {
      policy := some fun user cluster => .done (.ok (user = "alice" && cluster = "member1"))
      timeout := 5000 }
    pageCap := 1000
    requestTimeout := 30000 }

/-- The pods of that member, asked for with an escape in its name, as a user who may see them. -/
def memberPodsRequest : HttpRequest :=
  { method := "GET"
    path := "/api/v1/member/member%31/pod"
    query := none
    headers := [("Authorization", "Bearer token"), ("Impersonate-User", "alice")] }

/-- The request for the pods is on a route, and its call is made for the cluster that the gate
allows. -/
theorem refusesFirst_memberPodsRequest :
    Location.ofPath? memberPodsRequest.path =
        some (.api (.page (.member "member%31") (.list .pods none))) ∧
      (ofOneMember.respond memberPodsRequest 0).calls = [⟨.member "member1", .list .pod .all⟩] ∧
      ofOneMember.RefusesFirst (.page (.member "member%31") (.list .pods none)) memberPodsRequest
        0 := by
  have hroute : Location.ofPath? memberPodsRequest.path =
      some (.api (.page (.member "member%31") (.list .pods none))) := by decide +kernel
  exact ⟨hroute, by decide +kernel, refusesFirst_of_route ofOneMember memberPodsRequest 0 hroute⟩

end Service

end FleetDashboard
