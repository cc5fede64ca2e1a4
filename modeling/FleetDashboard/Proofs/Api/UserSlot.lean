import Mathlib.Data.List.Infix
import FleetDashboard.Proofs.Api.Overview
import FleetDashboard.Proofs.Api.Refusal

/-!
# Whom the slot for the current user names

Requests that are served side by side share one slot for the current user. Entering one overwrites
what another has written, and leaving one empties the slot, whoever wrote it. So the slot says
little about who is being served, but what it says is never out of date: if it names a user, that is
the user of the request that was entered last, and nobody has left since.

* `ServiceHistory`: what requests leave behind that are served side by side.
* `Guarded`: a guard is entered once at most, and dropped once at most after that;
  `Service.guarded_of_leaves`: so it is with every request, be it served or given up.
* `ServiceHistory.exists_of_value_slot`: who wrote the slot; `ServiceHistory.mem_live_iff`: whose
  guard is live.
* `ServiceHistory.namesServed`: whom the slot names, at every moment.
-/

namespace FleetDashboard

/-! ## Guards -/

/-- The event enters a guard or drops one. -/
def ServiceEvent.isMark : ServiceEvent → Bool
  | .entered _ => true
  | .left => true
  | _ => false

/-- Of the events of one request, those that enter its guard or drop it. -/
def marks (log : List ServiceEvent) : List ServiceEvent :=
  log.filter ServiceEvent.isMark

@[simp]
theorem marks_append (before after : List ServiceEvent) :
    marks (before ++ after) = marks before ++ marks after :=
  List.filter_append before after

theorem mem_marks {log : List ServiceEvent} {event : ServiceEvent} :
    event ∈ marks log ↔ event ∈ log ∧ event.isMark = true :=
  List.mem_filter

/-- A request enters its guard once at most, and drops it once at most after that. -/
def Guarded (log : List ServiceEvent) : Prop :=
  ∃ user, marks log <+: [.entered user, .left]

namespace Guarded

variable {log before after : List ServiceEvent}

/-- It is so at every moment. -/
theorem of_append (h : Guarded (before ++ after)) : Guarded before := by
  obtain ⟨user, hlead⟩ := h
  rw [marks_append] at hlead
  exact ⟨user, (List.prefix_append _ _).trans hlead⟩

/-- When a guard is entered, it has not been entered before. -/
theorem marks_eq_nil {user : Option String} (h : Guarded (before ++ .entered user :: after)) :
    marks before = [] := by
  obtain ⟨other, hlead⟩ := h
  have hmarks : marks (before ++ .entered user :: after) =
      marks before ++ .entered user :: marks after := marks_append _ _
  rw [hmarks] at hlead
  rcases hbefore : marks before with _ | ⟨first, _ | ⟨second, rest⟩⟩
  · rfl
  · simp [hbefore] at hlead
  · simp [hbefore] at hlead

/-- When a guard is dropped, it has been entered and not been dropped before. -/
theorem exists_marks_eq (h : Guarded (before ++ .left :: after)) :
    ∃ user, marks before = [.entered user] := by
  obtain ⟨user, hlead⟩ := h
  have hmarks : marks (before ++ .left :: after) = marks before ++ .left :: marks after :=
    marks_append _ _
  rw [hmarks] at hlead
  rcases hbefore : marks before with _ | ⟨first, _ | ⟨second, rest⟩⟩
  · simp [hbefore] at hlead
  · simp only [hbefore, List.cons_append, List.nil_append, List.cons_prefix_cons] at hlead
    exact ⟨user, by rw [hlead.1]⟩
  · simp [hbefore] at hlead

/-- A guard is live exactly when it has been entered and not been dropped. -/
theorem length_marks_eq_one_iff (h : Guarded log) :
    (marks log).length = 1 ↔ (∃ user, .entered user ∈ log) ∧ .left ∉ log := by
  obtain ⟨user, hlead⟩ := h
  have hentered : ∀ name, .entered name ∈ log ↔ .entered name ∈ marks log := fun name => by
    simp [mem_marks, ServiceEvent.isMark]
  have hleft : .left ∈ log ↔ .left ∈ marks log := by simp [mem_marks, ServiceEvent.isMark]
  simp only [hentered, hleft]
  rcases hmarks : marks log with _ | ⟨first, _ | ⟨second, rest⟩⟩
  · simp
  · simp only [hmarks, List.cons_prefix_cons] at hlead
    simp [hlead.1]
  · simp only [hmarks, List.cons_prefix_cons] at hlead
    simp [hlead.2.1]

end Guarded

/-! ## Requests -/

/-- What a request leaves behind up to some moment, if it leaves all that when it is served to the
end. If it is given up at that moment, its guard is dropped. -/
inductive Leaves (all : List ServiceEvent) : List ServiceEvent → Prop
  /-- It goes on, or has come to the end. -/
  | upTo {before after : List ServiceEvent} (hall : before ++ after = all) : Leaves all before
  /-- It is given up. -/
  | givenUp {before after : List ServiceEvent} {user : Option String}
      (hall : before ++ after = all) (hentered : .entered user ∈ before) (hleft : .left ∉ before) :
      Leaves all (before ++ [.left])

namespace Service

variable {service : Service} {request : HttpRequest} {α β : Type}

/-- Work concerns targets alone. -/
def OnlyWorks (task : Task ServiceEvent α) : Prop :=
  ∀ now, ∀ event ∈ (task now).log, event.IsWork

theorem onlyWorks_done (value : α) : OnlyWorks (.done value) := by
  rintro now event ⟨⟩

theorem onlyWorks_reach (target : TargetRequest) (answer : α) :
    OnlyWorks (reach target answer) := by
  intro now event hevent
  rw [List.mem_singleton.1 hevent]
  trivial

theorem onlyWorks_read (bound : BoundLister) (work : Lister → Task Call α) :
    OnlyWorks (read bound work) := by
  intro now event hevent
  obtain ⟨call, -, rfl⟩ := List.mem_map.1 hevent
  trivial

theorem OnlyWorks.andThen {first : Task ServiceEvent α} {next : α → Task ServiceEvent β}
    (hfirst : OnlyWorks first) (hnext : ∀ value, OnlyWorks (next value)) :
    OnlyWorks (first.andThen next) := by
  intro now event hevent
  rcases Task.mem_log_andThen.1 hevent with hevent | hevent
  · exact hfirst now event hevent
  · exact hnext _ _ event hevent

theorem onlyWorks_readPlace (service : Service) (place : Place) (identity : Identity)
    (work : Lister → Task Call (ViewResult Json)) :
    OnlyWorks (service.readPlace place identity work) := by
  refine OnlyWorks.andThen ?_ fun reached => ?_
  · cases place <;> exact onlyWorks_reach _ _
  · cases reached with
    | error error => exact onlyWorks_done _
    | ok bound => exact (onlyWorks_read bound work).andThen fun _ => onlyWorks_done _

theorem onlyWorks_servePage (service : Service) (place : Place) (shown : Exhibit)
    (query : Option String) (identity : Identity) (scope : Scope) :
    OnlyWorks (service.servePage place shown query identity scope) := by
  cases shown with
  | list view inNamespace =>
    show OnlyWorks (service.serveList place view inNamespace query identity scope)
    unfold serveList
    cases ListParameters.parse (query.getD "") with
    | error flaw => exact onlyWorks_done _
    | ok parameters => exact onlyWorks_readPlace service place identity _
  | pod inNamespace name => exact onlyWorks_readPlace service place identity _
  | replicaSet inNamespace name => exact onlyWorks_readPlace service place identity _

theorem onlyWorks_overview (service : Service) (identity : Identity) (scope : Scope) :
    OnlyWorks (service.overview identity scope) := by
  refine (onlyWorks_reach _ _).andThen fun reached => ?_
  cases reached with
  | error error => exact onlyWorks_done _
  | ok controlPlane =>
    refine OnlyWorks.andThen ?_ fun parts => ?_
    · -- the three parts are looked up side by side
      intro now event hevent
      simp only [overviewParts, Task.both_run, controller?_log, List.mem_append,
        List.mem_singleton] at hevent
      rcases hevent with rfl | hevent | hevent
      · trivial
      · exact onlyWorks_read controlPlane _ now event hevent
      · exact onlyWorks_read controlPlane _ now event hevent
    · obtain ⟨controller, _ | _ | members, _ | resources⟩ := parts
      -- without the page nothing more is done
      iterate 5 exact onlyWorks_done _
      · refine OnlyWorks.andThen ?_ fun _ => OnlyWorks.andThen ?_ fun ready =>
          OnlyWorks.andThen ?_ fun _ => onlyWorks_done _
        · intro now event hevent
          obtain ⟨registered, -, rfl⟩ := List.mem_map.1 hevent
          trivial
        · intro now event hevent
          obtain ⟨name, -, rfl⟩ := List.mem_map.1 hevent
          trivial
        · intro now event hevent
          obtain ⟨call, -, rfl⟩ := List.mem_map.1 hevent
          trivial

theorem onlyWorks_serveRoute (service : Service) (route : Route) (query : Option String)
    (identity : Identity) (scope : Scope) :
    OnlyWorks (service.serveRoute route query identity scope) := by
  unfold serveRoute
  split
  · exact onlyWorks_done _
  · exact onlyWorks_overview service identity scope
  · exact onlyWorks_servePage service _ _ query identity scope

/-- The events of work are no marks. -/
theorem marks_eq_nil_of_isWork {log : List ServiceEvent} (h : ∀ event ∈ log, event.IsWork) :
    marks log = [] := by
  refine List.filter_eq_nil_iff.2 fun event hevent => ?_
  have hwork := h event hevent
  cases event with
  | entered user => cases hwork
  | left => cases hwork
  | _ => exact Bool.false_ne_true

/-- A request leaves no marks, or it enters its guard first and drops it last. -/
theorem marks_respond (service : Service) (request : HttpRequest) (now : Nat) :
    marks (service.respond request now).log = [] ∨
      ∃ user, marks (service.respond request now).log = [.entered user, .left] := by
  cases hlocation : Location.ofPath? request.path with
  | none => exact Or.inl (by simp [respond, respondFully, hlocation, marks])
  | some location =>
    cases location with
    | alive => exact Or.inl (by simp [respond, respondFully, hlocation, marks])
    | ready => exact Or.inl (by simp [respond, respondFully, hlocation, marks])
    | api route =>
      have hconsulted : marks ((service.caller request now).log.map .consulted) = [] :=
        List.filter_eq_nil_iff.2 fun event hevent => by
          obtain ⟨whom, -, rfl⟩ := List.mem_map.1 hevent
          exact Bool.false_ne_true
      cases hcaller : (service.caller request now).value with
      | error error =>
        rw [respond_of_unauthenticated hlocation hcaller]
        exact Or.inl hconsulted
      | ok identity =>
        refine Or.inr ⟨identity.username, ?_⟩
        rw [respond_of_known hlocation hcaller]
        have hserved : marks (service.serve route request identity
            (service.caller request now).finish).log = [] := by
          rw [serve_eq]
          split
          · rfl
          · split
            · exact marks_eq_nil_of_isWork (onlyWorks_serveRoute service route request.query
                identity _ _)
            · rfl
        unfold marked
        rw [marks_append, hconsulted, List.nil_append, List.cons_append, ← List.singleton_append,
          marks_append, marks_append, hserved]
        rfl

/-- Every request enters its guard once at most and drops it once at most after that, be it served
to the end or given up. -/
theorem guarded_of_leaves {log : List ServiceEvent} {now : Nat}
    (h : Leaves (service.respond request now).log log) : Guarded log := by
  have hguarded : ∀ before after : List ServiceEvent,
      before ++ after = (service.respond request now).log → Guarded before := by
    intro before after hall
    have hwhole : Guarded (before ++ after) := by
      rw [hall]
      rcases service.marks_respond request now with hnone | ⟨user, hmarks⟩
      · exact ⟨none, hnone ▸ List.nil_prefix⟩
      · exact ⟨user, hmarks ▸ List.prefix_rfl⟩
    exact hwhole.of_append
  cases h with
  | upTo hall => exact hguarded _ _ hall
  | givenUp hall hentered hleft =>
    -- the guard is live when the request is given up
    have hlive := (hguarded _ _ hall).length_marks_eq_one_iff.2 ⟨⟨_, hentered⟩, hleft⟩
    obtain ⟨user, hlead⟩ := hguarded _ _ hall
    have hmarks : marks _ = [.entered user] :=
      (List.prefix_iff_eq_take.1 hlead).trans (by rw [hlive]; rfl)
    refine ⟨user, ?_⟩
    rw [marks_append, hmarks]
    exact List.prefix_rfl

end Service

/-! ## Histories -/

/-- What requests leave behind that are served side by side: the events of all of them in the order
in which they happened, each with the number of its request. -/
abbrev ServiceHistory := List (Nat × ServiceEvent)

namespace ServiceHistory

variable {history before after : ServiceHistory} {request other : Nat} {event : ServiceEvent}
  {user : String}

/-- What one of the requests leaves behind. -/
def own (history : ServiceHistory) (request : Nat) : List ServiceEvent :=
  (history.filter (·.1 = request)).map (·.2)

/-- The slot after a history that begins when it is empty. The guard of a request has its number. -/
def slot (history : ServiceHistory) : UserSlot :=
  UserSlot.empty.run (history.filterMap fun (request, event) => event.slotEvent? request)

theorem mem_own : event ∈ own history request ↔ (request, event) ∈ history := by
  simp [own]

theorem own_append (before after : ServiceHistory) (request : Nat) :
    own (before ++ after) request = own before request ++ own after request := by
  simp [own]

theorem own_cons_self (request : Nat) (event : ServiceEvent) (after : ServiceHistory) :
    own ((request, event) :: after) request = event :: own after request := by
  simp [own]

theorem slot_append (before : ServiceHistory) (request : Nat) (event : ServiceEvent) :
    slot (before ++ [(request, event)]) =
      ((event.slotEvent? request).map (slot before).step).getD (slot before) := by
  simp only [slot, UserSlot.run, List.filterMap_append, List.foldl_append]
  cases hevent : event.slotEvent? request <;> simp [hevent]

theorem slot_append_entered (before : ServiceHistory) (request : Nat) (user : Option String) :
    slot (before ++ [(request, .entered user)]) = (slot before).enter request user :=
  slot_append before request (.entered user)

theorem slot_append_left (before : ServiceHistory) (request : Nat) :
    slot (before ++ [(request, .left)]) = (slot before).drop request :=
  slot_append before request .left

/-- The slot is left alone by everything that enters no guard and drops none. -/
theorem slot_append_of_not_isMark (before : ServiceHistory) (request : Nat)
    (h : event.isMark = false) : slot (before ++ [(request, event)]) = slot before := by
  rw [slot_append]
  cases event with
  | entered user => cases h
  | left => cases h
  | _ => rfl

/-- Whoever wrote the slot last has entered a guard since when none was entered or dropped. -/
theorem exists_of_value_slot (h : (slot history).value = some user) :
    ∃ earlier request since, history = earlier ++ (request, .entered (some user)) :: since ∧
      ∀ entry ∈ since, entry.2.isMark = false := by
  induction history using List.reverseRecOn with
  | nil => cases h
  | append_singleton before entry ih =>
    obtain ⟨request, event⟩ := entry
    cases hmark : event.isMark with
    | true =>
      cases event with
      | entered name =>
        rw [slot_append_entered] at h
        cases (h : name = some user)
        exact ⟨before, request, [], rfl, by rintro _ ⟨⟩⟩
      | left =>
        rw [slot_append_left] at h
        cases h
      | _ => cases hmark
    | false =>
      rw [slot_append_of_not_isMark before request hmark] at h
      obtain ⟨earlier, holder, since, rfl, hsince⟩ := ih h
      refine ⟨earlier, holder, since ++ [(request, event)], by simp, ?_⟩
      intro entry hentry
      rcases List.mem_append.1 hentry with hold | hnew
      · exact hsince entry hold
      · rw [List.mem_singleton.1 hnew]
        exact hmark

/-- A guard is live once or not at all. -/
theorem count_live (h : Guarded (own history request)) :
    (slot history).live.count request =
      if (marks (own history request)).length = 1 then 1 else 0 := by
  induction history using List.reverseRecOn with
  | nil => rfl
  | append_singleton before entry ih =>
    obtain ⟨other, event⟩ := entry
    rw [own_append] at h ⊢
    specialize ih h.of_append
    cases hmark : event.isMark with
    | false =>
      rw [slot_append_of_not_isMark before other hmark, ih, marks_append]
      have hnone : marks (own [(other, event)] request) = [] := by
        by_cases hother : other = request <;> simp [own, marks, hother, hmark]
      rw [hnone, List.append_nil]
    | true =>
      by_cases hother : other = request
      · subst hother
        have hown : own [(other, event)] other = [event] := own_cons_self other event []
        rw [hown] at h ⊢
        cases event with
        | entered user =>
          -- the guard is live now, and was not before
          rw [h.marks_eq_nil] at ih
          rw [slot_append_entered, marks_append, h.marks_eq_nil]
          exact (List.count_cons_self).trans (congrArg (· + 1) ih)
        | left =>
          -- the guard was live before, and is not now
          obtain ⟨user, hmarks⟩ := h.exists_marks_eq
          rw [hmarks] at ih
          rw [slot_append_left, marks_append, hmarks]
          exact (List.count_erase_self).trans (congrArg (· - 1) ih)
        | _ => cases hmark
      · have hown : own [(other, event)] request = [] := by simp [own, hother]
        rw [hown, List.append_nil, ← ih]
        cases event with
        | entered user =>
          rw [slot_append_entered]
          exact List.count_cons_of_ne hother
        | left =>
          rw [slot_append_left]
          exact List.count_erase_of_ne (Ne.symm hother)
        | _ => cases hmark

/-- A guard is live exactly when it has been entered and not been dropped. -/
theorem mem_live_iff (h : Guarded (own history request)) :
    request ∈ (slot history).live ↔
      (∃ user, (request, .entered user) ∈ history) ∧ (request, .left) ∉ history := by
  have hlive := count_live h
  simp only [← mem_own]
  rw [← h.length_marks_eq_one_iff, ← List.count_pos_iff, hlive]
  split
  next hone => simp [hone]
  next hone => simp [hone]

/-! ## Whom the slot names -/

/-- At every moment of a history the slot names a user who is being served, if anybody. -/
structure NamesServed (history : ServiceHistory) : Prop where
  /-- The guards that are live have been entered and not been dropped. -/
  live : ∀ before after, before ++ after = history → ∀ request,
    request ∈ (slot before).live ↔
      (∃ user, (request, .entered user) ∈ before) ∧ (request, .left) ∉ before
  /-- If the slot names a user, a guard was entered for that user, no other one has been entered
  since, none has been dropped since, and it is still live. -/
  holder : ∀ before after, before ++ after = history → ∀ user, (slot before).value = some user →
    ∃ earlier request since, before = earlier ++ (request, .entered (some user)) :: since ∧
      (∀ other name, (other, .entered name) ∉ since) ∧ (∀ other, (other, .left) ∉ since) ∧
      request ∈ (slot before).live
  /-- While no guard is live, the slot is empty. -/
  vacant : ∀ before after, before ++ after = history → (slot before).live = [] →
    (slot before).value = none

/-- If every request enters its guard once at most and drops it once at most after that, the slot
names users who are being served, however the requests are interleaved. -/
theorem namesServed (history : ServiceHistory)
    (hguards : ∀ request, Guarded (own history request)) : NamesServed history := by
  have hlive : ∀ before after, before ++ after = history → ∀ request,
      request ∈ (slot before).live ↔
        (∃ user, (request, .entered user) ∈ before) ∧ (request, .left) ∉ before := by
    rintro before after rfl request
    have hguard := hguards request
    rw [own_append] at hguard
    exact mem_live_iff hguard.of_append
  have hholder : ∀ before after, before ++ after = history → ∀ user,
      (slot before).value = some user →
      ∃ earlier request since, before = earlier ++ (request, .entered (some user)) :: since ∧
        (∀ other name, (other, .entered name) ∉ since) ∧ (∀ other, (other, .left) ∉ since) ∧
        request ∈ (slot before).live := by
    rintro before after rfl user hvalue
    obtain ⟨earlier, request, since, rfl, hsince⟩ := exists_of_value_slot hvalue
    refine ⟨earlier, request, since, rfl, ?_, ?_, ?_⟩
    · intro other name hmem
      cases hsince _ hmem
    · intro other hmem
      cases hsince _ hmem
    · refine (hlive _ after rfl request).2 ⟨⟨some user, by simp⟩, fun hmem => ?_⟩
      -- nothing was dropped since, and the guard was not dropped before it was entered
      rcases List.mem_append.1 hmem with hearlier | hrest
      · have hguard := hguards request
        rw [own_append, own_append, own_cons_self, List.append_assoc, List.cons_append] at hguard
        have hmarks : .left ∈ marks (own earlier request) := mem_marks.2 ⟨mem_own.2 hearlier, rfl⟩
        rw [hguard.marks_eq_nil] at hmarks
        cases hmarks
      · rcases List.mem_cons.1 hrest with heq | hlater
        · cases heq
        · cases hsince _ hlater
  refine ⟨hlive, hholder, ?_⟩
  intro before after hhistory hnone
  cases hvalue : (slot before).value with
  | none => rfl
  | some user =>
    obtain ⟨-, request, -, -, -, -, hrequest⟩ := hholder before after hhistory user hvalue
    rw [hnone] at hrequest
    cases hrequest

/-- A request of `alice` is overtaken by one of `bob`, who may see nothing: while `alice` is served
the slot names `bob`, and when he has left it names nobody. -/
theorem namesServed_overtaken :
    let asked := TargetRequest.member "member1"
    let call : TargetCall := ⟨.member "member1", .list .pod .all⟩
    let bobsRequest : HttpRequest :=
      { Service.memberPodsRequest with
        headers := [("Authorization", "Bearer token"), ("Impersonate-User", "bob")] }
    let history : ServiceHistory :=
      [(0, .entered (some "alice")), (0, .asked asked), (1, .entered (some "bob")),
        (0, .called call), (1, .left), (0, .left)]
    own history 0 = (Service.ofOneMember.respond Service.memberPodsRequest 0).log ∧
      own history 1 = (Service.ofOneMember.respond bobsRequest 0).log ∧
      (∀ request, Guarded (own history request)) ∧ NamesServed history ∧
      (slot (history.take 4)).value = some "bob" ∧ (slot (history.take 5)).value = none := by
  intro asked call bobsRequest history
  have halice : own history 0 =
      (Service.ofOneMember.respond Service.memberPodsRequest 0).log := by decide +kernel
  have hbob : own history 1 = (Service.ofOneMember.respond bobsRequest 0).log := by decide +kernel
  have hguards : ∀ request, Guarded (own history request)
    | 0 => Service.guarded_of_leaves (.upTo ((List.append_nil _).trans halice))
    | 1 => Service.guarded_of_leaves (.upTo ((List.append_nil _).trans hbob))
    | _ + 2 => ⟨none, List.nil_prefix⟩
  exact ⟨halice, hbob, hguards, namesServed history hguards, by decide +kernel, by decide +kernel⟩

end ServiceHistory

end FleetDashboard
