import FleetDashboard.Proofs.Api.Refusal

/-!
# When a name cannot be looked up

A policy decides about users, and who acts for nobody is a user only if the resolver knows a name
for the credential. A resolver that rejects the credential ends the request. One that fails in any
other way leaves the caller without a name, and a caller without a name is let pass: then the
request comes to what it would come to without a policy.

* `Service.withResolver`, `Service.ungated`: the service with another resolver, and without a
  policy.
* `Service.respond_ungated`: about a caller without a name, a policy makes no difference.
* `Service.LookupFails`, `Service.lookupFails_of_member`: what a failed look-up comes to for a
  request to a member cluster.
-/

namespace FleetDashboard

/-- The caller is refused, as unknown or as forbidden. -/
def HttpResponse.IsRefusal (response : HttpResponse) : Prop :=
  response.status = 401 ∨ response.status = 403

namespace Service

variable {service : Service} {request : HttpRequest} {identity : Identity} {segment token : String}
  {shown : Exhibit} {failing : UsernameResolver} {error : ClientError} {now : Nat}

/-- The service when names are looked up elsewhere. -/
def withResolver (service : Service) (resolver : UsernameResolver) : Service :=
  { service with authenticator := { service.authenticator with resolver := some resolver } }

/-- The service without a policy. -/
def ungated (service : Service) : Service :=
  { service with gate := { service.gate with policy := none } }

/-! ## Callers without a name -/

/-- A caller without a name may use any cluster, with a policy or without. -/
theorem require_ungated {user : Option String} (huser : AccessGate.askedUser? user = none)
    (service : Service) (cluster : String) (scope : Scope) (now : Nat) :
    (service.ungated.gate.require user cluster scope now : Run ServiceEvent _) =
      service.gate.require user cluster scope now := by
  have hcheck : (service.ungated.gate.check user cluster scope now : Run ServiceEvent _) =
      service.gate.check user cluster scope now := by
    rw [AccessGate.check_of_bypasses (Or.inr huser), AccessGate.check_of_bypasses (Or.inr huser)]
  simp only [AccessGate.require, Task.andThen, hcheck]

/-- So access to a route of a member cluster is decided as though there were no policy. -/
theorem authorize_ungated {user : Option String} (huser : AccessGate.askedUser? user = none)
    (service : Service) (segment : String) (shown : Exhibit) (scope : Scope) (now : Nat) :
    service.ungated.authorize (.page (.member segment) shown) user scope now =
      service.authorize (.page (.member segment) shown) user scope now := by
  unfold authorize
  cases hdecode : (Route.page (.member segment) shown).decode with
  | error flaw => rfl
  | ok decoded =>
    obtain ⟨place', shown', hplace, -, rfl⟩ := Route.decode_page_eq_ok_iff.1 hdecode
    obtain ⟨cluster, -, rfl⟩ := Place.decode_member_eq_ok_iff.1 hplace
    simp only [Task.bind_eq_andThen, Task.andThen, require_ungated huser]

theorem serveRoute_ungated (service : Service) (place : Place) (shown : Exhibit)
    (query : Option String) (identity : Identity) (scope : Scope) :
    service.ungated.serveRoute (.page place shown) query identity scope =
      service.serveRoute (.page place shown) query identity scope := by
  unfold serveRoute
  cases hdecode : (Route.page place shown).decode with
  | error flaw => rfl
  | ok decoded =>
    obtain ⟨place', shown', -, -, rfl⟩ := Route.decode_page_eq_ok_iff.1 hdecode
    cases shown' <;> rfl

/-- A request of a caller without a name comes to the same with a policy and without. -/
theorem respond_ungated (hroute : Location.ofPath? request.path =
      some (.api (.page (.member segment) shown)))
    (hcaller : (service.caller request now).value = .ok identity)
    (hname : AccessGate.askedUser? identity.username = none) :
    service.ungated.respond request now = service.respond request now := by
  -- a policy has no part in authentication
  have hcaller' : (service.ungated.caller request now).value = .ok identity := hcaller
  have hserve : service.ungated.serve (.page (.member segment) shown) request identity =
      service.serve (.page (.member segment) shown) request identity := by
    funext start
    -- neither the decision on access nor the page behind it depends on the policy
    simp only [serve, Task.bind_eq_andThen, Task.andThen, openScope, authorize_ungated hname,
      serveRoute_ungated]
    rfl
  rw [respond_of_known hroute hcaller, respond_of_known hroute hcaller', hserve]
  rfl

/-! ## Failed look-ups -/

/-- What a look-up that fails comes to, for a request whose name the resolver fails to say. -/
structure LookupFails (service : Service) (failing : UsernameResolver) (error : ClientError)
    (request : HttpRequest) (now : Nat) : Prop where
  /-- If the credential is rejected, so is the request, and no call is made for it. -/
  rejected : (∃ reason, error = .unauthorized reason) →
    ((service.withResolver failing).respond request now).value.status = 401 ∧
      ((service.withResolver failing).respond request now).calls = []
  /-- Otherwise the request comes to what it comes to without a policy. -/
  passed : (∀ reason, error ≠ .unauthorized reason) →
    (service.withResolver failing).respond request now =
      (service.ungated.withResolver failing).respond request now
  /-- So it is refused if the credential is rejected, or if it would be refused without a policy. -/
  refused : ((service.withResolver failing).respond request now).value.IsRefusal ↔
    (∃ reason, error = .unauthorized reason) ∨
      ((service.ungated.withResolver failing).respond request now).value.IsRefusal

/-- A rejected credential is answered with the rejection, and nothing is done for the request. -/
theorem respond_of_rejected {route : Route} {reason : String}
    (hroute : Location.ofPath? request.path = some (.api route))
    (hcaller : (service.caller request now).value = .error (.unauthorized reason)) :
    (service.respond request now).value.status = 401 ∧
      (service.respond request now).calls = [] := by
  have hrun := respond_of_unauthenticated hroute hcaller
  constructor
  · rw [hrun, HttpResponse.status_fitted]
    rfl
  · rw [List.eq_nil_iff_forall_not_mem]
    intro call hcall
    rw [Run.mem_calls, hrun] at hcall
    obtain ⟨whom, -, hwhom⟩ := List.mem_map.1 hcall
    cases hwhom

/-- Whose name cannot be looked up is rejected, or known by the credential alone. -/
theorem caller_of_failure (service : Service) (now : Nat)
    (hpresents : request.headers.Presents token)
    (hnobody : ∀ user, ¬ request.headers.ActsFor user)
    (hfails : failing token = .error error) :
    (∃ reason, error = .unauthorized reason ∧
        ((service.withResolver failing).caller request now).value =
          .error (.unauthorized reason)) ∨
      (∀ reason, error ≠ .unauthorized reason) ∧
        ((service.withResolver failing).caller request now).value = .ok (.ofToken token) := by
  have hsettles := (service.withResolver failing).authenticator.settles_of_presents hpresents now
  rw [Identity.impersonation?_eq_none_iff.2 hnobody] at hsettles
  unfold caller
  -- of the ways in which a credential is settled, those are left in which the resolver fails
  generalize ((service.withResolver failing).authenticator.authenticate request.headers now).value
    = outcome at hsettles ⊢
  generalize ((service.withResolver failing).authenticator.authenticate request.headers now).log
    = asked at hsettles
  cases hsettles with
  | unasked hresolver => cases hresolver
  | named resolver username hresolver hanswer =>
    cases hresolver
    rw [hfails] at hanswer
    cases hanswer
  | rejected resolver reason hresolver hanswer =>
    cases hresolver
    rw [hfails, Except.error.injEq] at hanswer
    exact Or.inl ⟨reason, hanswer, rfl⟩
  | unnamed resolver other hresolver hanswer hother =>
    cases hresolver
    rw [hfails, Except.error.injEq] at hanswer
    subst hanswer
    exact Or.inr ⟨hother, rfl⟩

/-- What a failed look-up comes to, for every request to a member cluster that presents a credential
and acts for nobody. -/
theorem lookupFails_of_member (service : Service) (request : HttpRequest) (now : Nat)
    (hroute : Location.ofPath? request.path = some (.api (.page (.member segment) shown)))
    (hpresents : request.headers.Presents token)
    (hnobody : ∀ user, ¬ request.headers.ActsFor user)
    (hfails : failing token = .error error) :
    service.LookupFails failing error request now := by
  rcases caller_of_failure service now hpresents hnobody hfails with
    ⟨reason, hreason, hcaller⟩ | ⟨hother, hcaller⟩
  · have hrejected := respond_of_rejected hroute hcaller
    refine ⟨fun _ => hrejected, fun hother => absurd hreason (hother reason), ?_⟩
    exact ⟨fun _ => Or.inl ⟨reason, hreason⟩, fun _ => Or.inl hrejected.1⟩
  · -- known by the credential alone, the caller has no name
    have hsame := respond_ungated hroute hcaller rfl
    have hno : ¬ ∃ reason, error = .unauthorized reason :=
      fun ⟨reason, hreason⟩ => hother reason hreason
    refine ⟨fun hreason => absurd hreason hno, fun _ => hsame.symm, ?_⟩
    rw [← hsame]
    exact ⟨Or.inr, fun h => h.resolve_left hno⟩

/-- The pods of the member cluster `member1`, asked for with a credential alone. -/
def namelessPodsRequest : HttpRequest :=
  { method := "GET"
    path := "/api/v1/member/member1/pod"
    query := none
    headers := [("Authorization", "Bearer token")] }

/-- A resolver that gets no answer in time. -/
def lateResolver : UsernameResolver := fun _ =>
  .error (.server { kind := .timeout, message := "no review of the token", code := none })

/-- What a late resolver comes to for a caller who is refused when the name is known. -/
theorem lookupFails_namelessPodsRequest :
    ((ofOneMember.withResolver fun _ => .ok "mallory").respond namelessPodsRequest 0).value.status =
        403 ∧
      ofOneMember.LookupFails lateResolver
        (.server { kind := .timeout, message := "no review of the token", code := none })
        namelessPodsRequest 0 := by
  have hroute : Location.ofPath? namelessPodsRequest.path =
      some (.api (.page (.member "member1") (.list .pods none))) := by decide +kernel
  have hpresents : namelessPodsRequest.headers.Presents "token" :=
    ⟨by decide +kernel, by decide +kernel, by decide⟩
  have hnobody : ∀ user, ¬ namelessPodsRequest.headers.ActsFor user :=
    Identity.impersonation?_eq_none_iff.1 (by decide +kernel)
  exact ⟨by decide +kernel,
    lookupFails_of_member ofOneMember namelessPodsRequest 0 hroute hpresents hnobody rfl⟩

/-- A failed look-up can widen access: who is refused under a name is served when the resolver gets
no answer. -/
theorem not_refused_of_late_resolver :
    ¬ ∀ (service : Service) (answering failing : UsernameResolver) (request : HttpRequest)
        (segment token name : String) (shown : Exhibit) (error : ClientError) (now : Nat),
      service.gate.isEnforcing = true →
      Location.ofPath? request.path = some (.api (.page (.member segment) shown)) →
      request.headers.Presents token → (∀ user, ¬ request.headers.ActsFor user) →
      answering token = .ok name → failing token = .error error →
      ((service.withResolver answering).respond request now).value.status = 403 →
      ((service.withResolver failing).respond request now).value.IsRefusal := by
  intro h
  have hserved :
      ((ofOneMember.withResolver lateResolver).respond namelessPodsRequest 0).value.status =
        200 := by
    decide +kernel
  have hrefused := h ofOneMember (fun _ => .ok "mallory") lateResolver namelessPodsRequest "member1"
    "token" "mallory" (.list .pods none) _ 0 rfl (by decide +kernel)
    ⟨by decide +kernel, by decide +kernel, by decide⟩
    (Identity.impersonation?_eq_none_iff.1 (by decide +kernel)) rfl rfl (by decide +kernel)
  unfold HttpResponse.IsRefusal at hrefused
  rw [hserved] at hrefused
  omega

end Service

end FleetDashboard
