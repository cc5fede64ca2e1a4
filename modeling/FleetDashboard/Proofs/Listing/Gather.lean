import FleetDashboard.Listing.Gather
import FleetDashboard.Proofs.Time.Await

/-!
# What gathering comes to

Each of the kinds that are gathered has an outcome of its own, which depends on its own call and on
the scope alone. The calls run side by side and end in any order; what they are drained to is
determined by the outcomes in the order of the kinds.

* `Lister.outcome`: what a kind comes to, from its own reply if that is in time.
* `Lister.gather_value`: gathering yields the outcome of each kind.
* `Lister.gather_finish`: it is over at the last end of a call.
* `Gathered.Drains`: what some kinds with their outcomes have to be drained to.
* `Gathered.drains_map`: they are drained to that.
* `Lister.drain_gather`: so it is for the kinds that a lister gathers.
-/

namespace FleetDashboard

/-! ## Outcomes -/

namespace ListOutcome

/-- What a kind comes to with the reply that is in time. Without one the call was given up, because
it was cancelled or else because it was late. -/
def ofTimely (kind : ResourceKind) (cancelled : Bool) :
    Option (Reply (List ApiObject)) → ListOutcome
  | some (.answer objects) => .ok objects
  | some (.failure failure) => .error failure
  | some .broken =>
    .error (.plain .internal ("list task for " ++ kind.name ++ " exited without a result"))
  | none =>
    if cancelled then .error (.timeout ("list " ++ kind.name ++ " cancelled"))
    else .error (.timeout ("list " ++ kind.name ++ " exceeded request deadline"))

/-- The objects; none if the kind failed. -/
def objects : ListOutcome → List ApiObject
  | .ok objects => objects
  | .error _ => []

/-- The failure, if the kind failed. -/
def failure? : ListOutcome → Option ServerFailure
  | .ok _ => none
  | .error failure => some failure

/-- The kind failed in a way that aborts the response. -/
def IsCritical (outcome : ListOutcome) : Prop :=
  ∃ failure, outcome = .error failure ∧ failure.isCritical = true

/-- An outcome is critical exactly when it has a failure that is. -/
theorem isCritical_iff {outcome : ListOutcome} :
    outcome.IsCritical ↔ outcome.failure?.any (·.isCritical) = true := by
  cases outcome with
  | ok objects => simp [IsCritical, failure?]
  | error failure => simp [IsCritical, failure?]

/-- A call that is given up is a critical failure. -/
theorem isCritical_ofTimely_none (kind : ResourceKind) (cancelled : Bool) :
    (ofTimely kind cancelled none).IsCritical := by
  cases cancelled <;> exact ⟨_, rfl, rfl⟩

end ListOutcome

/-- Whether an outcome is critical is decidable. -/
instance (outcome : ListOutcome) : Decidable outcome.IsCritical :=
  decidable_of_iff _ ListOutcome.isCritical_iff.symm

namespace Lister

/-- What a kind comes to when it is listed from `now` on: its own reply if that is in time, and
otherwise a timeout. -/
def outcome (lister : Lister) (wanted : Namespaces) (scope : Scope) (now : Nat)
    (kind : ResourceKind) : ListOutcome :=
  .ofTimely kind (scope.isCancelled (max now scope.deadline))
    ((lister.list kind wanted).timely? (scope.InTime now))

/-- Listing one kind yields its outcome. -/
theorem listOne_value (lister : Lister) (wanted : Namespaces) (scope : Scope) (kind : ResourceKind)
    (now : Nat) :
    (lister.listOne wanted scope kind now).value = lister.outcome wanted scope now kind := by
  have hvalue : (lister.listOne wanted scope kind now).value =
      .ofEnding kind (scope.await now (lister.list kind wanted)).value := rfl
  rw [hvalue, Scope.await_value, outcome]
  cases (lister.list kind wanted).timely? (scope.InTime now) with
  | some reply => cases reply <;> rfl
  | none => cases scope.isCancelled (max now scope.deadline) <;> rfl

/-- Gathering yields the outcome of each kind, in the order of the kinds. -/
theorem gather_value (lister : Lister) (kinds : List ResourceKind) (wanted : Namespaces)
    (scope : Scope) (now : Nat) :
    (lister.gather kinds wanted scope now).value =
      kinds.map fun kind => (kind, lister.outcome wanted scope now kind) := by
  simp only [gather, Task.pure_eq_done, Task.bind_eq_andThen, Task.andThen_value, Task.done_run,
    Task.all_value, List.map_map]
  induction kinds with
  | nil => rfl
  | cons kind rest ih =>
    rw [List.map_cons, List.zip_cons_cons, List.map_cons, ih, Function.comp_apply, listOne_value]

/-- Listing one kind is one call, unless the scope is cancelled. -/
theorem listOne_log (lister : Lister) (wanted : Namespaces) (scope : Scope) (kind : ResourceKind)
    (now : Nat) :
    (lister.listOne wanted scope kind now).log =
      if scope.isCancelled now then [] else [.list kind wanted] := by
  simp only [listOne, Call.start, Task.bind_eq_andThen, Task.pure_eq_done, Task.andThen_log,
    Task.await_run, Task.done_run, List.append_nil]

/-- Gathering is one call for each kind, in the order of the kinds, unless the scope is
cancelled. -/
theorem gather_log (lister : Lister) (kinds : List ResourceKind) (wanted : Namespaces)
    (scope : Scope) (now : Nat) :
    (lister.gather kinds wanted scope now).log =
      if scope.isCancelled now then [] else kinds.map fun kind => .list kind wanted := by
  simp only [gather, Task.bind_eq_andThen, Task.pure_eq_done, Task.andThen_log, Task.done_run,
    Task.all_log, List.flatMap_map, List.append_nil, listOne_log]
  induction kinds with
  | nil => split <;> rfl
  | cons kind rest ih =>
    rw [List.flatMap_cons, ih]
    split
    · rfl
    · rfl

/-- What is gathered depends on the listings of its own kinds alone. -/
theorem gather_congr {lister other : Lister} {kinds : List ResourceKind} {wanted : Namespaces}
    (h : ∀ kind ∈ kinds, other.list kind wanted = lister.list kind wanted) (scope : Scope) :
    other.gather kinds wanted scope = lister.gather kinds wanted scope := by
  have hlist : kinds.map (other.listOne wanted scope) =
      kinds.map (lister.listOne wanted scope) := by
    refine List.map_congr_left fun kind hkind => ?_
    rw [listOne, listOne, h kind hkind]
  rw [gather, gather, hlist]

/-! ### The last end of a call -/

/-- The moment at which the last of some calls is over that start at `now` within a scope, each at
the earliest of its own end, the deadline and the cancellation. -/
def lastEnd (lister : Lister) (kinds : List ResourceKind) (wanted : Namespaces) (scope : Scope)
    (now : Nat) : Nat :=
  (kinds.map fun kind => scope.endOf now (lister.list kind wanted)).foldr max now

variable {lister : Lister} {kinds : List ResourceKind} {wanted : Namespaces} {scope : Scope}
  {now : Nat}

theorem lastEnd_cons (kind : ResourceKind) (rest : List ResourceKind) :
    lister.lastEnd (kind :: rest) wanted scope now =
      max (scope.endOf now (lister.list kind wanted)) (lister.lastEnd rest wanted scope now) := rfl

theorem le_lastEnd : now ≤ lister.lastEnd kinds wanted scope now := by
  induction kinds with
  | nil => exact Nat.le_refl now
  | cons kind rest ih => exact Nat.le_trans ih (Nat.le_max_right _ _)

theorem lastEnd_le : lister.lastEnd kinds wanted scope now ≤ max now scope.deadline := by
  induction kinds with
  | nil => exact Nat.le_max_left now _
  | cons kind rest ih =>
    have hend := scope.endOf_le_deadline now (lister.list kind wanted)
    rw [lastEnd_cons]
    omega

theorem listOne_finish (lister : Lister) (wanted : Namespaces) (scope : Scope) (kind : ResourceKind)
    (now : Nat) :
    (lister.listOne wanted scope kind now).finish =
      max now (scope.endOf now (lister.list kind wanted)) := by
  have hawait : (lister.listOne wanted scope kind now).finish =
      (scope.await now (lister.list kind wanted)).finish := rfl
  rw [hawait, Scope.await_finish]

/-- Gathering is over at the last end of a call. -/
theorem gather_finish (lister : Lister) (kinds : List ResourceKind) (wanted : Namespaces)
    (scope : Scope) (now : Nat) :
    (lister.gather kinds wanted scope now).finish = lister.lastEnd kinds wanted scope now := by
  -- the induction is over the calls side by side: what they are zipped with takes no time
  have hall : (Task.all (kinds.map (lister.listOne wanted scope)) now).finish =
      lister.lastEnd kinds wanted scope now := by
    induction kinds with
    | nil => rfl
    | cons kind rest ih =>
      have hnow : now ≤ lister.lastEnd rest wanted scope now := le_lastEnd
      simp only [List.map_cons, Task.all_cons_run, ih, listOne_finish, lastEnd_cons]
      omega
  exact hall

/-- Gathering goes forward in time. -/
theorem forward_gather (lister : Lister) (kinds : List ResourceKind) (wanted : Namespaces)
    (scope : Scope) : (lister.gather kinds wanted scope).Forward := by
  intro now
  rw [gather_finish]
  exact le_lastEnd

end Lister

/-! ## Lists by kind -/

/-- Without the entries of a kind, nothing is found of it and the same as before of the others. -/
private theorem find?_filter_ne (byKind : List (ResourceKind × List ApiObject))
    (kind other : ResourceKind) :
    ((byKind.filter fun entry => entry.1 != kind).find? fun entry => entry.1 == other) =
      if other = kind then none else byKind.find? fun entry => entry.1 == other := by
  rw [List.find?_filter]
  by_cases hkind : other = kind
  · rw [if_pos hkind, List.find?_eq_none]
    intro entry _ hentry
    simp only [decide_eq_true_eq, bne_iff_ne, ne_eq, beq_iff_eq] at hentry
    exact hentry.1 (hentry.2.trans hkind)
  · rw [if_neg hkind]
    congr 1
    funext entry
    by_cases hentry : entry.1 = other
    · simp [hentry, hkind]
    · simp [hentry]

namespace Lists

/-- Taking a kind leaves nothing of it and all of the others. -/
theorem objects_take (lists : Lists) (kind other : ResourceKind) :
    (lists.take kind).2.objects other = if other = kind then [] else lists.objects other := by
  rw [take, objects, find?_filter_ne]
  split
  · rfl
  · rfl

/-- The lists after some kinds were taken, one after another. -/
def afterTaking (lists : Lists) (taken : List ResourceKind) : Lists :=
  taken.foldl (fun lists kind => (lists.take kind).2) lists

/-- Taking some kinds leaves nothing of them and all of the others. -/
theorem objects_afterTaking (lists : Lists) (taken : List ResourceKind) (kind : ResourceKind) :
    (lists.afterTaking taken).objects kind = if kind ∈ taken then [] else lists.objects kind := by
  induction taken generalizing lists with
  | nil => rfl
  | cons first rest ih =>
    have hrest : (lists.afterTaking (first :: rest)).objects kind =
        ((lists.take first).2.afterTaking rest).objects kind := rfl
    rw [hrest, ih, objects_take]
    by_cases hfirst : kind = first
    · simp [hfirst]
    · simp [hfirst]

end Lists

namespace Gathered

variable {kinds : List ResourceKind} {outcome : ResourceKind → ListOutcome}

/-- Putting a list in place changes what is found of its kind and of no other. -/
theorem find?_put (byKind : List (ResourceKind × List ApiObject)) (kind other : ResourceKind)
    (objects : List ApiObject) :
    ((put byKind kind objects).find? fun entry => entry.1 == other) =
      if other = kind then some (kind, objects)
      else byKind.find? fun entry => entry.1 == other := by
  rw [put, List.find?_append, find?_filter_ne]
  by_cases hkind : other = kind
  · simp [hkind]
  · have hkind' : ¬ kind = other := fun h => hkind h.symm
    simp [hkind, hkind']

/-- One more kind: its list is put in place, if it has one. -/
def putOutcome (byKind : List (ResourceKind × List ApiObject))
    (entry : ResourceKind × ListOutcome) : List (ResourceKind × List ApiObject) :=
  match entry.2 with
  | .ok objects => put byKind entry.1 objects
  | .error _ => byKind

/-- The lists by kind, one kind after another. -/
theorem successes_eq_foldl (gathered : Gathered) :
    gathered.successes = gathered.foldl putOutcome [] := rfl

/-- What is found of a kind after one more: its new list, if it has one, and what there was
otherwise. -/
theorem find?_putOutcome (byKind : List (ResourceKind × List ApiObject)) (kind other : ResourceKind)
    (outcome : ResourceKind → ListOutcome) :
    ((putOutcome byKind (kind, outcome kind)).find? fun entry => entry.1 == other) =
      if other = kind then
        ((outcome other).toOption.map (other, ·)).or (byKind.find? fun entry => entry.1 == other)
      else byKind.find? fun entry => entry.1 == other := by
  unfold putOutcome
  by_cases hkind : other = kind
  · subst hkind
    cases houtcome : outcome other with
    | ok objects => simp [find?_put, Except.toOption]
    | error failure => simp [Except.toOption]
  · cases houtcome : outcome kind with
    | ok objects => simp [find?_put, hkind]
    | error failure => simp [hkind]

/-- What is found of a kind after several others: its new list, if it is among them and has one, and
what there was otherwise. -/
theorem find?_foldl_putOutcome (kinds : List ResourceKind) (outcome : ResourceKind → ListOutcome)
    (byKind : List (ResourceKind × List ApiObject)) (other : ResourceKind) :
    (((kinds.map fun kind => (kind, outcome kind)).foldl putOutcome byKind).find?
        fun entry => entry.1 == other) =
      if other ∈ kinds then
        ((outcome other).toOption.map (other, ·)).or (byKind.find? fun entry => entry.1 == other)
      else byKind.find? fun entry => entry.1 == other := by
  -- the lists that were put before stay as they are unless their kind comes once more, so the
  -- induction is over the kinds that are left, for whatever lists there are
  induction kinds generalizing byKind with
  | nil => simp
  | cons kind rest ih =>
    rw [List.map_cons, List.foldl_cons, ih, find?_putOutcome]
    by_cases hkind : other = kind
    · subst hkind
      cases houtcome : (outcome other).toOption with
      | some objects => simp
      | none => simp
    · simp [hkind]

/-- The objects of a kind, when every kind has an outcome of its own. -/
theorem objects_successes (kinds : List ResourceKind) (outcome : ResourceKind → ListOutcome)
    (warnings : List ServerFailure) (kind : ResourceKind) :
    { byKind := successes (kinds.map fun kind => (kind, outcome kind)), warnings : Lists }.objects
        kind =
      if kind ∈ kinds then (outcome kind).objects else [] := by
  rw [Lists.objects, successes_eq_foldl, find?_foldl_putOutcome]
  -- there are no lists to begin with, so a kind that failed has none
  split
  · cases outcome kind with
    | ok objects => rfl
    | error failure => rfl
  · rfl

/-! ## Draining -/

/-- The failures are those of the kinds, in their order. -/
theorem failures_map (kinds : List ResourceKind) (outcome : ResourceKind → ListOutcome) :
    failures (kinds.map fun kind => (kind, outcome kind)) =
      kinds.filterMap fun kind => (outcome kind).failure? := by
  rw [failures, List.filterMap_map]
  rfl

/-- Draining comes to the first critical failure, or else to the lists with all failures. -/
theorem drain_eq (gathered : Gathered) :
    gathered.drain =
      match gathered.failures.find? (·.isCritical) with
      | some failure => .error failure
      | none => .ok { byKind := gathered.successes, warnings := gathered.failures } := by
  rw [drain, FailureSplit.ofList_eq, FailureSplit.result]
  cases hfind : gathered.failures.find? (·.isCritical) with
  | some failure => rfl
  | none =>
    -- without a critical failure every failure is a warning
    have hall : gathered.failures.filter (!·.isCritical) = gathered.failures := by
      rw [List.filter_eq_self]
      intro failure hfailure
      simpa using List.find?_eq_none.1 hfind failure hfailure
    rw [hall]
    rfl

/-- What some kinds, each with an outcome of its own, have to be drained to. -/
structure Drains (kinds : List ResourceKind) (outcome : ResourceKind → ListOutcome)
    (result : Except ServerFailure Lists) : Prop where
  /-- The whole is aborted exactly when some kind failed critically. -/
  aborts : (∃ failure, result = .error failure) ↔ ∃ kind ∈ kinds, (outcome kind).IsCritical
  /-- What aborts it is the failure of the first such kind. -/
  first : ∀ failure, result = .error failure →
    ∃ earlier kind later, kinds = earlier ++ kind :: later ∧ outcome kind = .error failure ∧
      failure.isCritical = true ∧ ∀ other ∈ earlier, ¬ (outcome other).IsCritical
  /-- Otherwise each kind that was not taken before has its objects, all of them and in order. -/
  objects : ∀ lists, result = .ok lists → ∀ taken, ∀ kind ∈ kinds, kind ∉ taken →
    ((lists.afterTaking taken).take kind).1 = (outcome kind).objects ∧
      (lists.afterTaking taken).count kind = (outcome kind).objects.length
  /-- Of kinds that were not asked for, or taken before, there is nothing. -/
  absent : ∀ lists, result = .ok lists → ∀ taken kind, kind ∉ kinds ∨ kind ∈ taken →
    ((lists.afterTaking taken).take kind).1 = [] ∧ (lists.afterTaking taken).count kind = 0
  /-- The warnings are the failures of the kinds, in their order. -/
  warnings : ∀ lists, result = .ok lists →
    lists.warnings = kinds.filterMap fun kind => (outcome kind).failure?

/-- The first critical failure is what kinds with one have to be drained to. -/
theorem drains_error {earlier later : List ResourceKind} {kind : ResourceKind}
    {failure : ServerFailure} (hkind : outcome kind = .error failure)
    (hcritical : failure.isCritical = true)
    (hearlier : ∀ other ∈ earlier, ¬ (outcome other).IsCritical) :
    Drains (earlier ++ kind :: later) outcome (.error failure) where
  aborts := by
    have hmem : kind ∈ earlier ++ kind :: later := by simp
    exact ⟨fun _ => ⟨kind, hmem, failure, hkind, hcritical⟩, fun _ => ⟨failure, rfl⟩⟩
  first := by
    rintro _ ⟨rfl⟩
    exact ⟨earlier, kind, later, rfl, hkind, hcritical, hearlier⟩
  objects := by
    rintro _ ⟨⟩
  absent := by
    rintro _ ⟨⟩
  warnings := by
    rintro _ ⟨⟩

/-- The lists with all failures are what kinds without a critical one have to be drained to. -/
theorem drains_ok (hcritical : ∀ kind ∈ kinds, ¬ (outcome kind).IsCritical) :
    Drains kinds outcome (.ok
      { byKind := successes (kinds.map fun kind => (kind, outcome kind))
        warnings := kinds.filterMap fun kind => (outcome kind).failure? }) where
  aborts := by
    constructor
    · rintro ⟨_, ⟨⟩⟩
    · rintro ⟨kind, hkind, h⟩
      exact absurd h (hcritical kind hkind)
  first := by
    rintro _ ⟨⟩
  objects := by
    rintro _ ⟨rfl⟩ taken kind hkind htaken
    rw [Lists.take, Lists.count, Lists.objects_afterTaking, if_neg htaken, objects_successes,
      if_pos hkind]
    exact ⟨rfl, rfl⟩
  absent := by
    rintro _ ⟨rfl⟩ taken kind hgone
    rw [Lists.take, Lists.count, Lists.objects_afterTaking, objects_successes]
    rcases hgone with hkind | htaken
    · simp [hkind]
    · simp [htaken]
  warnings := by
    rintro _ ⟨rfl⟩
    rfl

/-- Kinds that each have an outcome of their own are drained to what they have to be. -/
theorem drains_map (kinds : List ResourceKind) (outcome : ResourceKind → ListOutcome) :
    Drains kinds outcome (drain (kinds.map fun kind => (kind, outcome kind))) := by
  rw [drain_eq, failures_map, List.find?_filterMap]
  cases hfind : kinds.find? fun kind => (outcome kind).failure?.any (·.isCritical) with
  | some kind =>
    -- the failure that is found first is that of the first critical kind
    obtain ⟨hkind, earlier, later, rfl, hearlier⟩ := List.find?_eq_some_iff_append.1 hfind
    obtain ⟨failure, hfailure, hcritical⟩ := ListOutcome.isCritical_iff.2 hkind
    have hfound : (some kind).bind (fun kind => (outcome kind).failure?) = some failure := by
      simp [hfailure, ListOutcome.failure?]
    rw [hfound]
    refine drains_error hfailure hcritical fun other hother => ?_
    rw [ListOutcome.isCritical_iff]
    simpa using hearlier other hother
  | none =>
    refine drains_ok fun kind hkind => ?_
    rw [ListOutcome.isCritical_iff]
    exact List.find?_eq_none.1 hfind kind hkind

/-- Either a critical failure ends it, or the kinds are drained to their objects and their
warnings. -/
theorem drain_map_cases (kinds : List ResourceKind) (outcome : ResourceKind → ListOutcome) :
    (∃ failure, drain (kinds.map fun kind => (kind, outcome kind)) = .error failure ∧
        ∃ kind ∈ kinds, (outcome kind).IsCritical) ∨
      ∃ lists, drain (kinds.map fun kind => (kind, outcome kind)) = .ok lists ∧
        (∀ kind ∈ kinds, ¬ (outcome kind).IsCritical) ∧
        (∀ kind ∈ kinds, lists.objects kind = (outcome kind).objects) ∧
        lists.warnings = kinds.filterMap fun kind => (outcome kind).failure? := by
  have hdrains := drains_map kinds outcome
  cases hdrain : drain (kinds.map fun kind => (kind, outcome kind)) with
  | error failure => exact Or.inl ⟨failure, rfl, hdrains.aborts.1 ⟨failure, hdrain⟩⟩
  | ok lists =>
    refine Or.inr ⟨lists, rfl, fun kind hkind hcritical => ?_, fun kind hkind => ?_,
      hdrains.warnings lists hdrain⟩
    · obtain ⟨failure, hfailed⟩ := hdrains.aborts.2 ⟨kind, hkind, hcritical⟩
      rw [hdrain] at hfailed
      cases hfailed
    · -- nothing was taken before, so each kind has all its objects
      exact (hdrains.objects lists hdrain [] kind hkind List.not_mem_nil).1

/-- Kinds are drained to the first critical failure among them. -/
theorem drain_map_of_first {earlier later : List ResourceKind} {kind : ResourceKind}
    {failure : ServerFailure} (hkind : outcome kind = .error failure)
    (hcritical : failure.isCritical = true)
    (hearlier : ∀ other ∈ earlier, ¬ (outcome other).IsCritical) :
    drain ((earlier ++ kind :: later).map fun kind => (kind, outcome kind)) = .error failure := by
  have hfailures : failures ((earlier ++ kind :: later).map fun kind => (kind, outcome kind)) =
      (earlier.filterMap fun kind => (outcome kind).failure?) ++
        failure :: later.filterMap fun kind => (outcome kind).failure? := by
    rw [failures_map, List.filterMap_append, List.filterMap_cons, hkind]
    rfl
  -- of the failures in front of it none is critical, so the search comes to it
  have hnone : (earlier.filterMap fun kind => (outcome kind).failure?).find? (·.isCritical) =
      none := by
    rw [List.find?_eq_none]
    intro other hother
    obtain ⟨before, hbefore, hfailed⟩ := List.mem_filterMap.1 hother
    have hmild := hearlier before hbefore
    rw [ListOutcome.isCritical_iff, hfailed] at hmild
    exact hmild
  rw [drain_eq, hfailures, List.find?_append, hnone, Option.none_or,
    List.find?_cons_of_pos hcritical]

/-- Kinds are drained alike when their outcomes are the same. -/
theorem drain_map_congr {other : ResourceKind → ListOutcome}
    (h : ∀ kind ∈ kinds, outcome kind = other kind) :
    drain (kinds.map fun kind => (kind, outcome kind)) =
      drain (kinds.map fun kind => (kind, other kind)) := by
  have hsame : (kinds.map fun kind => (kind, outcome kind)) =
      kinds.map fun kind => (kind, other kind) :=
    List.map_congr_left fun kind hkind => by rw [h kind hkind]
  rw [hsame]

end Gathered

namespace Lister

/-- Whatever delays and failures the calls meet and in whatever order they end, the kinds that are
gathered are drained as their outcomes in the given order demand. The outcomes are all that counts:
where they are the same, with whatever lister, scope and time, so is what is drained. -/
theorem drain_gather (lister : Lister) (kinds : List ResourceKind) (wanted : Namespaces)
    (scope : Scope) (now : Nat) :
    Gathered.Drains kinds (lister.outcome wanted scope now)
        (lister.gather kinds wanted scope now).value.drain ∧
      ∀ (lister' : Lister) (wanted' : Namespaces) (scope' : Scope) (now' : Nat),
        (∀ kind ∈ kinds,
          lister.outcome wanted scope now kind = lister'.outcome wanted' scope' now' kind) →
        (lister.gather kinds wanted scope now).value.drain =
          (lister'.gather kinds wanted' scope' now').value.drain := by
  rw [gather_value]
  refine ⟨Gathered.drains_map kinds _, ?_⟩
  intro lister' wanted' scope' now' hsame
  rw [gather_value]
  exact Gathered.drain_map_congr hsame

/-- A reply at the very deadline is in time: it is not the case that only replies before it
count. -/
theorem drain_gather_at_deadline :
    ¬ ∀ (lister : Lister) (kinds : List ResourceKind) (wanted : Namespaces) (scope : Scope)
        (now : Nat), kinds.Nodup →
      Gathered.Drains kinds
        (fun kind => .ofTimely kind (scope.isCancelled (max now scope.deadline))
          ((lister.list kind wanted).timely? fun ms =>
            scope.InTime now ms ∧ (ms = 0 ∨ now + ms < scope.deadline)))
        (lister.gather kinds wanted scope now).value.drain := by
  intro h
  let lister : Lister :=
    { list := fun _ _ => .after 1000 (.answer []), get := fun _ _ _ => .never }
  have hdrains := h lister [.secret] .all (.lasting 0 1000) 0 (by decide)
  have hcritical : ∃ kind ∈ [ResourceKind.secret], ListOutcome.IsCritical
      (.ofTimely kind ((Scope.lasting 0 1000).isCancelled (max 0 (Scope.lasting 0 1000).deadline))
        ((lister.list kind .all).timely? fun ms =>
          (Scope.lasting 0 1000).InTime 0 ms ∧ (ms = 0 ∨ 0 + ms < 1000))) :=
    ⟨.secret, by decide, .timeout "list Secret exceeded request deadline", rfl, rfl⟩
  obtain ⟨failure, hfailure⟩ := hdrains.aborts.2 hcritical
  have hok : (lister.gather [.secret] .all (.lasting 0 1000) 0).value.drain =
      .ok { byKind := [(.secret, [])], warnings := [] } := rfl
  rw [hok] at hfailure
  cases hfailure

end Lister

end FleetDashboard
