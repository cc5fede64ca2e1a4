import FleetDashboard.Access.Gate
import FleetDashboard.Proofs.Time.Await

/-!
# What the gate grants

A check is passed in two ways only: nobody is asked, because there is no policy or no user, or the
policy grants the user the cluster in time. Access to the management cluster is passed in the second
way alone.

* `AccessGate.Bypasses`: nobody is asked about the user.
* `AccessGate.Grants`: the policy grants the user the cluster, in time for a check at a moment.
* `AccessGate.check_eq_allow_iff`, `AccessGate.require_eq_ok_iff`: what passes a check.
* `AccessGate.requireAdmin_eq_ok_iff`: what passes for the management cluster.
* `AccessGate.failsClosed`: whatever the policy does, all else is forbidden.
* `AccessGate.filterAccessible_value`: the items that are kept are those whose check is passed.
-/

namespace FleetDashboard.AccessGate

variable {ε α : Type} {gate : AccessGate} {user : Option String} {cluster : String} {scope : Scope}
  {now : Nat}

/-- Nobody is asked about the user: there is no policy, or no user to ask it about. -/
def Bypasses (gate : AccessGate) (user : Option String) : Prop :=
  gate.policy = none ∨ askedUser? user = none

/-- The policy grants the user the cluster, and its answer to a check that starts at `now` is in
time: within the gate's own timeout and within the scope. -/
def Grants (gate : AccessGate) (user : Option String) (cluster : String) (scope : Scope)
    (now : Nat) : Prop :=
  ∃ policy name ms, gate.policy = some policy ∧ askedUser? user = some name ∧
    policy name cluster = .after ms (.ok true) ∧ ms ≤ gate.timeout ∧ scope.InTime now ms

/-- A gate grants nothing to whom it does not ask about. -/
theorem not_grants_of_bypasses (h : gate.Bypasses user) : ¬ gate.Grants user cluster scope now := by
  rintro ⟨policy, name, ms, hpolicy, hname, -⟩
  rcases h with h | h
  · rw [h] at hpolicy
    cases hpolicy
  · rw [h] at hname
    cases hname

/-- A gate that grants access to a check would have granted it to an earlier one. -/
theorem Grants.of_le {earlier later : Nat} (h : gate.Grants user cluster scope later)
    (hle : earlier ≤ later) : gate.Grants user cluster scope earlier := by
  obtain ⟨policy, name, ms, hpolicy, hname, hanswer, hlimit, hin⟩ := h
  exact ⟨policy, name, ms, hpolicy, hname, hanswer, hlimit, hin.of_le hle⟩

/-! ## Checks -/

/-- A check with somebody to ask waits for the policy, no longer than the gate and the scope
allow. -/
theorem check_of_asked {policy : AccessPolicy} {name : String} (hpolicy : gate.policy = some policy)
    (hname : askedUser? user = some name) :
    ((gate.check user cluster scope now : Run ε _).value = .ok .allow ↔
        ((scope.within now gate.timeout).await now (policy name cluster)).value =
          .result (.ok true)) ∧
      (gate.check user cluster scope now : Run ε _).finish =
        ((scope.within now gate.timeout).await now (policy name cluster)).finish := by
  simp only [check, hname, hpolicy, and_true]
  split <;> simp_all

/-- A check with nobody to ask is passed at once. -/
theorem check_of_bypasses (h : gate.Bypasses user) :
    (gate.check user cluster scope now : Run ε _) = ⟨.ok .allow, now, []⟩ := by
  rcases h with h | h
  · cases hname : askedUser? user with
    | none => simp [check, h, hname]
    | some name => simp [check, h, hname]
  · simp [check, h]

/-- Either nobody is asked, or there are a policy and a name to ask it about. -/
theorem bypasses_or_asked (gate : AccessGate) (user : Option String) :
    gate.Bypasses user ∨
      ∃ policy name, gate.policy = some policy ∧ askedUser? user = some name := by
  cases hpolicy : gate.policy with
  | none => exact Or.inl (Or.inl hpolicy)
  | some policy =>
    cases hname : askedUser? user with
    | none => exact Or.inl (Or.inr hname)
    | some name => exact Or.inr ⟨policy, name, rfl, rfl⟩

/-- A check is passed exactly when nobody is asked or the policy grants access in time. -/
theorem check_eq_allow_iff :
    (gate.check user cluster scope now : Run ε _).value = .ok .allow ↔
      gate.Bypasses user ∨ gate.Grants user cluster scope now := by
  rcases bypasses_or_asked gate user with hbypass | ⟨policy, name, hpolicy, hname⟩
  · simp [check_of_bypasses hbypass, hbypass]
  · have hasked : ¬ gate.Bypasses user := by
      simp [Bypasses, hpolicy, hname]
    rw [(check_of_asked hpolicy hname).1, Scope.await_value_eq_result_iff]
    simp only [hasked, false_or, Grants, hpolicy, hname, Option.some.injEq, Scope.inTime_within_iff]
    constructor
    · rintro ⟨ms, hanswer, hlimit, hin⟩
      exact ⟨policy, name, ms, rfl, rfl, hanswer, hlimit, hin⟩
    · rintro ⟨_, _, ms, rfl, rfl, hanswer, hlimit, hin⟩
      exact ⟨ms, hanswer, hlimit, hin⟩

/-- A check leaves nothing in the log. -/
@[simp]
theorem check_log : (gate.check user cluster scope now : Run ε _).log = [] := by
  rcases bypasses_or_asked gate user with hbypass | ⟨policy, name, hpolicy, hname⟩
  · rw [check_of_bypasses hbypass]
  · simp [check, hpolicy, hname]

/-! ## Requirements -/

/-- Access to a cluster is had exactly when its check is passed. -/
theorem require_eq_ok_iff :
    (gate.require user cluster scope now : Run ε _).value = .ok () ↔
      (gate.check user cluster scope now : Run ε _).value = .ok .allow := by
  simp only [require, Task.andThen_value, Task.done_run]
  split <;> simp_all

/-- Access to the management cluster is had exactly when a policy grants it in time. -/
theorem requireAdmin_eq_ok_iff :
    (gate.requireAdmin user scope now : Run ε _).value = .ok () ↔
      gate.Grants user managementCluster scope now := by
  rcases bypasses_or_asked gate user with hbypass | ⟨policy, name, hpolicy, hname⟩
  · -- with nobody to ask, the check would be passed; admin rights are refused instead
    have hrefused : (gate.requireAdmin user scope now : Run ε _).value ≠ .ok () := by
      unfold requireAdmin isEnforcing
      rcases hbypass with h | h
      · simp [h]
      · simp only [h, Option.isNone_none, ↓reduceIte]
        split <;> simp
    simp [hrefused, not_grants_of_bypasses hbypass]
  · have hasked : ¬ gate.Bypasses user := by
      simp [Bypasses, hpolicy, hname]
    -- with somebody to ask, the management cluster is required like any other
    have hsame : (gate.requireAdmin user scope : Task ε (Except ClientError Unit)) =
        gate.require user managementCluster scope := by
      simp [requireAdmin, isEnforcing, hpolicy, hname]
    rw [hsame, require_eq_ok_iff, check_eq_allow_iff]
    simp [hasked]

/-- A requirement that fails is answered as forbidden. -/
theorem eq_forbidden_of_require {error : ClientError}
    (h : (gate.require user cluster scope now : Run ε _).value = .error error) :
    ∃ reason, error = .forbidden reason := by
  simp only [require, Task.andThen_value, Task.done_run] at h
  cases hcheck : (gate.check user cluster scope now : Run ε _).value with
  | error failure =>
    rw [hcheck, Except.error.injEq] at h
    exact ⟨_, h.symm⟩
  | ok decision =>
    rw [hcheck] at h
    cases decision with
    | allow => cases h
    | deny =>
      rw [Except.error.injEq] at h
      exact ⟨_, h.symm⟩

/-- So is a requirement of management access that fails. -/
theorem eq_forbidden_of_requireAdmin {error : ClientError}
    (h : (gate.requireAdmin user scope now : Run ε _).value = .error error) :
    ∃ reason, error = .forbidden reason := by
  unfold requireAdmin at h
  -- it fails for want of a policy, for want of a user, or like any other requirement
  split at h
  next =>
    rw [Task.done_run, Except.error.injEq] at h
    exact ⟨_, h.symm⟩
  next =>
    split at h
    next =>
      rw [Task.done_run, Except.error.injEq] at h
      exact ⟨_, h.symm⟩
    next => exact eq_forbidden_of_require h

/-- A requirement leaves nothing in the log. -/
@[simp]
theorem require_log : (gate.require user cluster scope now : Run ε _).log = [] := by
  simp [require]

/-- The requirement of management access leaves nothing in the log. -/
@[simp]
theorem requireAdmin_log : (gate.requireAdmin user scope now : Run ε _).log = [] := by
  unfold requireAdmin
  split
  · rfl
  · split
    · rfl
    · exact require_log

/-! ## Failing closed -/

/-- Nobody is asked about a user exactly if there is no name, or an empty one. -/
theorem askedUser?_eq_none_iff : askedUser? user = none ↔ user = none ∨ user = some "" := by
  unfold askedUser?
  cases user with
  | none => simp
  | some name => simp [Option.filter]

/-- What failing closed amounts to for a user and a cluster, when access is asked for at a
moment. -/
structure FailsClosed (ε : Type) (gate : AccessGate) (user : Option String) (cluster : String)
    (scope : Scope) (now : Nat) : Prop where
  /-- Access is had if there is no policy or nobody to ask it about, or if the policy grants it in
  time, and in no other case. -/
  access : (gate.require user cluster scope now : Run ε _).value = .ok () ↔
    gate.policy = none ∨ user = none ∨ user = some "" ∨ gate.Grants user cluster scope now
  /-- In every other case it is forbidden. -/
  refusal : ∀ error, (gate.require user cluster scope now : Run ε _).value = .error error →
    ∃ reason, error = .forbidden reason
  /-- Management access is had only if a policy grants a user the management cluster in time. -/
  admin : (gate.requireAdmin user scope now : Run ε _).value = .ok () ↔
    gate.Grants user managementCluster scope now
  /-- In every other case it is forbidden. -/
  adminRefusal : ∀ error, (gate.requireAdmin user scope now : Run ε _).value = .error error →
    ∃ reason, error = .forbidden reason
  /-- Management access is more than access to the management cluster. -/
  ofAdmin : (gate.requireAdmin user scope now : Run ε _).value = .ok () →
    (gate.require user managementCluster scope now : Run ε _).value = .ok ()

/-- Whatever the policy does, and whatever bounds it, the gate fails closed. -/
theorem failsClosed (ε : Type) (gate : AccessGate) (user : Option String) (cluster : String)
    (scope : Scope) (now : Nat) : gate.FailsClosed ε user cluster scope now where
  access := by
    rw [require_eq_ok_iff, check_eq_allow_iff, Bypasses, askedUser?_eq_none_iff, or_assoc, or_assoc]
  refusal := fun _ h => eq_forbidden_of_require h
  admin := requireAdmin_eq_ok_iff
  adminRefusal := fun _ h => eq_forbidden_of_requireAdmin h
  ofAdmin := by
    intro hadmin
    have hgrants := requireAdmin_eq_ok_iff.1 hadmin
    exact require_eq_ok_iff.2 (check_eq_allow_iff.2 (Or.inr hgrants))

/-- An answer that comes just when the time for a check is over still counts: it is not the case
that only answers before that are in time. -/
theorem require_at_timeout :
    ¬ ∀ (gate : AccessGate) (user : Option String) (cluster : String) (scope : Scope) (now : Nat),
      (gate.require user cluster scope now : Run Unit _).value = .ok () ↔
        gate.policy = none ∨ user = none ∨ user = some "" ∨
          ∃ policy name ms, gate.policy = some policy ∧ user = some name ∧
            policy name cluster = .after ms (.ok true) ∧ scope.isCancelled now = false ∧
            (ms = 0 ∨ ms < gate.timeout ∧ now + ms < scope.deadline ∧
              scope.precedesCancel (now + ms) = true) := by
  intro h
  let slow : AccessPolicy := fun _ _ => .after 1000 (.ok true)
  let gate : AccessGate := { policy := some slow, timeout := 1000 }
  have hok : (gate.require (some "alice") "member1" (.lasting 0 30000) 0 : Run Unit _).value =
      .ok () := rfl
  rcases (h gate (some "alice") "member1" (.lasting 0 30000) 0).1 hok with
    hnone | hnone | hempty | ⟨policy, name, ms, hpolicy, -, hanswer, -, hin⟩
  · cases hnone
  · cases hnone
  · exact absurd hempty (by decide)
  · -- the policy takes all the time that the gate leaves it, and not less
    cases hpolicy
    cases hanswer
    rcases hin with hzero | ⟨hlimit, -⟩
    · exact absurd hzero (by decide)
    · exact Nat.lt_irrefl 1000 hlimit

/-! ## Selections -/

/-- Whether the outcome of a check lets the user through. -/
def lets : Except PolicyFailure Decision → Bool
  | .ok .allow => true
  | _ => false

/-- Only an allowance lets the user through. -/
theorem lets_iff {outcome : Except PolicyFailure Decision} :
    lets outcome = true ↔ outcome = .ok .allow := by
  unfold lets
  split <;> simp_all

/-- The items that are kept are those whose own check is passed, in their order. -/
theorem filterAccessible_value (gate : AccessGate) (user : Option String) (items : List α)
    (clusterOf : α → String) (scope : Scope) (now : Nat) :
    (gate.filterAccessible user items clusterOf scope now : Run ε _).value =
      items.filter fun item =>
        lets (gate.check user (clusterOf item) scope now : Run ε _).value := by
  simp only [filterAccessible, Task.andThen_value, Task.done_run, Task.all_value, List.map_map]
  -- the decisions stand in the order of the items, so both lists are taken apart together
  induction items with
  | nil => rfl
  | cons item rest ih =>
    rw [List.filter_cons, ← ih]
    simp only [List.map_cons, List.zip_cons_cons, List.filterMap_cons, Function.comp_apply]
    cases (gate.check user (clusterOf item) scope now : Run ε _).value with
    | error failure => rfl
    | ok decision => cases decision <;> rfl

/-- A selection is over when the clusters of all items have been checked. -/
theorem filterAccessible_finish (gate : AccessGate) (user : Option String) (items : List α)
    (clusterOf : α → String) (scope : Scope) (now : Nat) :
    (gate.filterAccessible user items clusterOf scope now : Run ε _).finish =
      (Task.all ((items.map clusterOf).map fun cluster => gate.check user cluster scope) now :
        Run ε _).finish := by
  rw [List.map_map]
  rfl

/-- A selection leaves nothing in the log. -/
@[simp]
theorem filterAccessible_log (gate : AccessGate) (user : Option String) (items : List α)
    (clusterOf : α → String) (scope : Scope) (now : Nat) :
    (gate.filterAccessible user items clusterOf scope now : Run ε _).log = [] := by
  simp [filterAccessible, Task.all_log]

end FleetDashboard.AccessGate
