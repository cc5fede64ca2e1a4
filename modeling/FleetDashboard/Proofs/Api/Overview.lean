import FleetDashboard.Proofs.Api.Serving
import FleetDashboard.Proofs.Overview.Argo
import FleetDashboard.Proofs.Overview.Members

/-!
# What the overview comes to

The overview reads the control plane and, when that has gone well, the members that are ready. The
two parts that are read from the control plane begin at once and do not depend on the controller
manager; the Argo CD objects are counted from the moment at which the last of the three parts is
over.

* `Service.memberPart`, `Service.resourcePart`: the parts that are read from the control plane.
* `Service.readyListers`: the listers of the members that are ready.
* `Service.overview_of_ok` and its like: the run of the overview, case by case.
* `Service.of_mem_calls_overview`, `Service.exists_mem_calls_overview`: where its calls go, and when
  there is one.
-/

namespace FleetDashboard

namespace Service

variable {service : Service} {identity : Identity} {bound : BoundLister} {scope : Scope}
  {members : MemberSummary} {resources : ResourceSummary} {now : Nat}

/-! ## Parts -/

/-- The part about the member clusters. -/
def memberPart (service : Service) (controlPlane : BoundLister) (user : Option String)
    (scope : Scope) (now : Nat) : Run ServiceEvent (ViewResult (Option MemberSummary)) :=
  read controlPlane (fun lister => memberSummary lister service.gate user scope) now

/-- The part about the resources of the control plane. -/
def resourcePart (controlPlane : BoundLister) (scope : Scope) (now : Nat) :
    Run ServiceEvent (ViewResult ResourceSummary) :=
  read controlPlane (fun lister => resourceSummary lister scope) now

/-- The moment at which all three parts are over. -/
def partsEnd (service : Service) (controlPlane : BoundLister) (user : Option String)
    (scope : Scope) (now : Nat) : Nat :=
  (service.overviewParts controlPlane user scope now).finish

/-- The listers of the members that are ready and can be reached. -/
def readyListers (service : Service) (members : MemberSummary) : List BoundLister :=
  members.ready.filterMap fun name => (service.targets.member name).toOption

/-- The parts are read independently of each other. -/
theorem overviewParts_value (service : Service) (controlPlane : BoundLister)
    (user : Option String) (scope : Scope) (now : Nat) :
    (service.overviewParts controlPlane user scope now).value =
      ((service.controller? scope now).value,
        (service.memberPart controlPlane user scope now).value,
        (resourcePart controlPlane scope now).value) := rfl

/-- The resources of the control plane are what their kinds are drained to. -/
theorem resourcePart_value (bound : BoundLister) (scope : Scope) (now : Nat) :
    (resourcePart bound scope now).value =
      ((Gathered.drain (ResourceSummary.kinds.map fun kind =>
        (kind, bound.lister.outcome .all scope now kind))).map
          ResourceSummary.ofLists).mapError ResourceError.server := by
  rw [← Lister.gather_value]
  rfl

/-- The look-up of the controller manager asks for it and makes no calls. -/
theorem controller?_log (service : Service) (scope : Scope) (now : Nat) :
    (service.controller? scope now).log = [.asked .manager] := by
  unfold controller?
  cases hmanager : service.targets.manager with
  | error error => rfl
  | ok source => rfl

/-- Every call of the parts goes to the control plane. -/
theorem target_of_mem_parts {call : TargetCall} {user : Option String}
    (h : call ∈ (service.overviewParts bound user scope now).calls) :
    call.target = bound.target := by
  rw [Run.mem_calls] at h
  have hread : ∀ {α : Type} (work : Lister → Task Call α),
      .called call ∈ (read bound work now).log → call.target = bound.target := by
    intro α work hmem
    simp only [read, BoundLister.run, Task.mapLog_log, List.map_map, List.mem_map,
      Function.comp_apply, ServiceEvent.called.injEq] at hmem
    obtain ⟨made, -, rfl⟩ := hmem
    rfl
  simp only [overviewParts, Task.both_run, controller?_log, List.mem_append, List.mem_singleton,
    reduceCtorEq, false_or] at h
  rcases h with h | h
  · exact hread _ h
  · exact hread _ h

/-! ## The run -/

/-- Without a control plane there is the error. -/
theorem overview_of_unreached {error : ClientError}
    (hplane : service.targets.controlPlane identity = .error error) :
    service.overview identity scope now =
      ⟨.ofError (.client error), now, [.asked (.controlPlane identity)]⟩ := by
  rw [overview, hplane]
  rfl

/-- Without one of the parts that are read from the control plane there is its error, that about the
member clusters first. -/
theorem overview_of_failed {error : ResourceError}
    (hplane : service.targets.controlPlane identity = .ok bound)
    (hfailed : (service.memberPart bound identity.username scope now).value = .error error ∨
      (∃ members,
          (service.memberPart bound identity.username scope now).value = .ok (some members)) ∧
        (resourcePart bound scope now).value = .error error) :
    service.overview identity scope now =
      ⟨.ofError (.resource error), service.partsEnd bound identity.username scope now,
        .asked (.controlPlane identity) ::
          (service.overviewParts bound identity.username scope now).log⟩ := by
  rcases hfailed with hmembers | ⟨⟨members, hmembers⟩, hresources⟩
  · ext1 <;>
      simp only [overview, reach, hplane, Task.bind_eq_andThen, Task.pure_eq_done,
        Task.andThen_value, Task.andThen_finish, Task.andThen_log, overviewParts_value, hmembers,
        Task.done_run, List.append_nil, List.singleton_append, partsEnd]
  · ext1 <;>
      simp only [overview, reach, hplane, Task.bind_eq_andThen, Task.pure_eq_done,
        Task.andThen_value, Task.andThen_finish, Task.andThen_log, overviewParts_value, hmembers,
        hresources, Task.done_run, List.append_nil, List.singleton_append, partsEnd]

/-- Where the member clusters cannot be counted there is no answer. -/
theorem overview_of_uncounted (hplane : service.targets.controlPlane identity = .ok bound)
    (hmembers : (service.memberPart bound identity.username scope now).value = .ok none) :
    service.overview identity scope now =
      ⟨.broken, service.partsEnd bound identity.username scope now,
        .asked (.controlPlane identity) ::
          (service.overviewParts bound identity.username scope now).log⟩ := by
  ext1 <;>
    simp only [overview, reach, hplane, Task.bind_eq_andThen, Task.pure_eq_done,
      Task.andThen_value, Task.andThen_finish, Task.andThen_log, overviewParts_value, hmembers,
      Task.done_run, List.append_nil, List.singleton_append, partsEnd]

/-- With all parts there is the page, and the members that are ready have been asked. -/
theorem overview_of_ok (hplane : service.targets.controlPlane identity = .ok bound)
    (hmembers : (service.memberPart bound identity.username scope now).value = .ok (some members))
    (hresources : (resourcePart bound scope now).value = .ok resources) :
    service.overview identity scope now =
      let argo := argoCounts (service.readyListers members) scope
        (service.partsEnd bound identity.username scope now)
      ⟨.success (Overview.toJson
          { controller := (service.controller? scope now).value, members, resources,
            argo := argo.value }),
        argo.finish,
        .asked (.controlPlane identity) ::
          ((service.overviewParts bound identity.username scope now).log ++
            (members.registered.toList.map .retained ++
              (members.ready.map (fun name => .asked (.member name)) ++
                argo.log.map .called)))⟩ := by
  ext1 <;>
    simp only [overview, reach, retain, reachable, readyListers, hplane, Task.bind_eq_andThen,
      Task.pure_eq_done, Task.andThen_value, Task.andThen_finish, Task.andThen_log,
      Task.mapLog_value, Task.mapLog_finish, Task.mapLog_log, overviewParts_value, hmembers,
      hresources, Task.done_run, List.append_nil, List.singleton_append, partsEnd]

/-- The work of the overview is done in the scope that opens when the caller is known. -/
theorem work_overview (service : Service) (identity : Identity) (request : HttpRequest)
    (now : Nat) :
    service.work .overview identity request now =
      service.overview identity (service.servingScope request now)
        (service.caller request now).finish := rfl

/-! ## Calls -/

/-- The listers of the members that are ready are those that their names stand for. -/
theorem mem_readyListers {member : BoundLister} :
    member ∈ service.readyListers members ↔
      ∃ name ∈ members.ready, service.targets.member name = .ok member := by
  simp only [readyListers, List.mem_filterMap, toOption_eq_some_iff]

/-- Every call of the overview goes to the control plane, or to a member that is ready. -/
theorem of_mem_calls_overview {call : TargetCall}
    (h : call ∈ (service.overview identity scope now).calls) :
    ∃ bound, service.targets.controlPlane identity = .ok bound ∧
      (call.target = bound.target ∨ ∃ members resources name member,
        (service.memberPart bound identity.username scope now).value = .ok (some members) ∧
        (resourcePart bound scope now).value = .ok resources ∧ name ∈ members.ready ∧
        service.targets.member name = .ok member ∧ call.target = member.target) := by
  rw [Run.mem_calls] at h
  cases hplane : service.targets.controlPlane identity with
  | error error =>
    rw [overview_of_unreached hplane] at h
    simp at h
  | ok bound =>
    refine ⟨bound, rfl, ?_⟩
    have hparts : .called call ∈ (service.overviewParts bound identity.username scope now).log →
        call.target = bound.target :=
      fun hmem => target_of_mem_parts (Run.mem_calls.2 hmem)
    -- without a page the parts are all that is asked for
    have hended : ∀ response, service.overview identity scope now =
        ⟨response, service.partsEnd bound identity.username scope now,
          .asked (.controlPlane identity) ::
            (service.overviewParts bound identity.username scope now).log⟩ →
        call.target = bound.target := by
      intro response hrun
      rw [hrun] at h
      rcases List.mem_cons.1 h with ⟨⟨⟩⟩ | h
      exact hparts h
    rcases hmembers : (service.memberPart bound identity.username scope now).value with
      error | (_ | members)
    · exact Or.inl (hended _ (overview_of_failed hplane (Or.inl hmembers)))
    · exact Or.inl (hended _ (overview_of_uncounted hplane hmembers))
    · cases hresources : (resourcePart bound scope now).value with
      | error error =>
        have hrun := overview_of_failed hplane (Or.inr ⟨⟨_, hmembers⟩, hresources⟩)
        exact Or.inl (hended _ hrun)
      | ok resources =>
        -- with a page the members that are ready are asked behind them
        rw [overview_of_ok hplane hmembers hresources] at h
        simp only [List.mem_cons, List.mem_append, List.mem_map, reduceCtorEq, false_or, and_false,
          exists_false, ServiceEvent.called.injEq, exists_eq_right] at h
        rcases h with h | h
        · exact Or.inl (hparts h)
        · obtain ⟨-, member, hmember, kind, -, rfl⟩ := mem_argoCounts_log.1 h
          obtain ⟨name, hname, hreached⟩ := mem_readyListers.1 hmember
          exact Or.inr ⟨members, resources, name, member, rfl, rfl, hname, hreached, rfl⟩

/-- A member that is ready and can be reached is called when the parts of the overview are there. -/
theorem exists_mem_calls_overview {name : String} {member : BoundLister}
    (hplane : service.targets.controlPlane identity = .ok bound)
    (hmembers : (service.memberPart bound identity.username scope now).value = .ok (some members))
    (hresources : (resourcePart bound scope now).value = .ok resources)
    (hname : name ∈ members.ready) (hmember : service.targets.member name = .ok member)
    (hlive : ∀ moment, scope.isCancelled moment = false) :
    ∃ call ∈ (service.overview identity scope now).calls, call.target = member.target := by
  let call : TargetCall := ⟨member.target, .list .argoApplication .all⟩
  have hcall : call ∈ (argoCounts (service.readyListers members) scope
      (service.partsEnd bound identity.username scope now)).log :=
    mem_argoCounts_log.2 ⟨hlive _, member, mem_readyListers.2 ⟨name, hname, hmember⟩,
      .argoApplication, by decide, rfl⟩
  refine ⟨call, ?_, rfl⟩
  rw [Run.mem_calls, overview_of_ok hplane hmembers hresources]
  simp only [List.mem_cons, List.mem_append, List.mem_map, reduceCtorEq, false_or, and_false,
    exists_false, ServiceEvent.called.injEq, exists_eq_right]
  exact Or.inr hcall

/-- A request for the overview with a token, under a name if there is one. -/
def overviewBy (user : Option String) : HttpRequest :=
  { method := "GET"
    path := "/api/v1/overview"
    query := none
    headers := ("Authorization", "Bearer token")
      :: user.toList.map fun name => ("Impersonate-User", name) }

end Service

end FleetDashboard
