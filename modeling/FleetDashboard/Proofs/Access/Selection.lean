import Mathlib.Data.List.Basic
import FleetDashboard.Proofs.Access.Gate

/-!
# Which items the gate keeps

A selection checks the clusters of all items side by side. What a check comes to depends on what the
policy does for its own cluster and on nothing else, so an item is kept or left out on its own
account: answers that are errors, that come late or that never come leave out the items of their
cluster and no other ones. Nor does it matter in which order the answers come in, because each is
put in the slot of its own item.

* `Slots.after_eq_map_some`: answers that come in in any order end up in their places.
* `AccessGate.check_congr`: a check depends on the policy for its own cluster alone.
* `AccessGate.FiltersAccess`, `AccessGate.filtersAccess`: which items are kept.
-/

namespace FleetDashboard

/-! ## Answers in any order -/

namespace Slots

variable {β : Type} {answers : List β} {slots : List (Option β)} {order : List Nat}

/-- The answer for a place comes in and is put there. -/
def record (answers : List β) (slots : List (Option β)) (place : Nat) : List (Option β) :=
  slots.set place answers[place]?

/-- The slots, empty at first, when the answers for these places have come in, one after the
other. -/
def after (answers : List β) (order : List Nat) : List (Option β) :=
  order.foldl (record answers) (List.replicate answers.length none)

@[simp]
theorem length_record (place : Nat) : (record answers slots place).length = slots.length :=
  List.length_set

theorem getElem?_record (hlen : slots.length = answers.length) (place i : Nat) :
    (record answers slots place)[i]? =
      if i = place then answers[i]?.map some else slots[i]? := by
  rw [record, List.getElem?_set]
  by_cases hplace : place = i
  · subst hplace
    rw [if_pos rfl, if_pos rfl, hlen]
    by_cases hlt : place < answers.length
    · rw [if_pos hlt, List.getElem?_eq_getElem hlt]
      rfl
    · rw [if_neg hlt, List.getElem?_eq_none (Nat.le_of_not_lt hlt)]
      rfl
  · rw [if_neg hplace, if_neg (Ne.symm hplace)]

/-- A slot holds the answer for its place if that has come in, and what it held before if not. -/
theorem getElem?_foldl_record (hlen : slots.length = answers.length) (i : Nat) :
    (order.foldl (record answers) slots)[i]? =
      if i ∈ order then answers[i]?.map some else slots[i]? := by
  induction order generalizing slots with
  | nil => rfl
  | cons place rest ih =>
    rw [List.foldl_cons, ih (by rw [length_record, hlen]), getElem?_record hlen]
    by_cases hrest : i ∈ rest
    · rw [if_pos hrest, if_pos (List.mem_cons_of_mem _ hrest)]
    · rw [if_neg hrest]
      simp only [List.mem_cons, hrest, or_false]

/-- Once all answers have come in, each is in its place. -/
theorem after_eq_map_some (hall : ∀ place < answers.length, place ∈ order) :
    after answers order = answers.map some := by
  refine List.ext_getElem? fun i => ?_
  rw [after, getElem?_foldl_record List.length_replicate, List.getElem?_map]
  by_cases hlt : i < answers.length
  · rw [if_pos (hall i hlt)]
  · -- beyond the last place there is neither a slot nor an answer
    rw [List.getElem?_eq_none (Nat.le_of_not_lt hlt), List.getElem?_replicate, if_neg hlt]
    exact ite_self _

end Slots

namespace AccessGate

variable {ε α : Type} {gate : AccessGate} {user : Option String} {cluster : String} {scope : Scope}
  {now : Nat}

/-! ## One check -/

/-- What a check comes to depends on what the policy does for its own cluster. -/
theorem check_congr {policy other : AccessPolicy}
    (h : ∀ name, policy name cluster = other name cluster) :
    ({ gate with policy := some policy }.check user cluster scope :
        Task ε (Except PolicyFailure Decision)) =
      { gate with policy := some other }.check user cluster scope := by
  simp only [check]
  cases askedUser? user with
  | none => rfl
  | some name =>
    simp only [h]
    rfl

/-- A check takes no longer than the gate and the scope allow. -/
theorem check_finish_le (gate : AccessGate) (user : Option String) (cluster : String)
    (scope : Scope) (now : Nat) :
    (gate.check user cluster scope now : Run ε _).finish ≤
      now + min gate.timeout (scope.remaining now) := by
  rcases bypasses_or_asked gate user with hbypass | ⟨policy, name, hpolicy, hname⟩
  · rw [check_of_bypasses hbypass]
    exact Nat.le_add_right _ _
  · rw [(check_of_asked hpolicy hname).2]
    calc ((scope.within now gate.timeout).await now (policy name cluster)).finish
        ≤ max now (scope.within now gate.timeout).deadline := Scope.await_finish_le _ _ _
      _ = now + min gate.timeout (scope.remaining now) := Nat.max_eq_right (Nat.le_add_right _ _)

/-! ## All checks -/

/-- What the checks of all items come to, in the order of the items. -/
def decisions (ε : Type) (gate : AccessGate) (user : Option String) (items : List α)
    (clusterOf : α → String) (scope : Scope) (now : Nat) : List (Except PolicyFailure Decision) :=
  items.map fun item => (gate.check user (clusterOf item) scope now : Run ε _).value

/-- The items whose slots hold an allowance. -/
def allowedAmong (items : List α) (slots : List (Option (Except PolicyFailure Decision))) :
    List α :=
  ((items.zip slots).filter fun entry => entry.2.any lets).map Prod.fst

theorem allowedAmong_map_some (items : List α) (outcome : α → Except PolicyFailure Decision) :
    allowedAmong items ((items.map outcome).map some) =
      items.filter fun item => lets (outcome item) := by
  rw [allowedAmong, List.map_map, ← List.map_prod_left_eq_zip, List.filter_map, List.map_map]
  exact List.map_id _

theorem filterAccessible_finish_le (gate : AccessGate) (user : Option String) (items : List α)
    (clusterOf : α → String) (scope : Scope) (now : Nat) :
    (gate.filterAccessible user items clusterOf scope now : Run ε _).finish ≤
      now + min gate.timeout (scope.remaining now) := by
  rw [filterAccessible_finish]
  induction items with
  | nil => exact Nat.le_add_right _ _
  | cons item rest ih =>
    rw [List.map_cons, List.map_cons, Task.all_cons_run]
    exact Nat.max_le.2 ⟨check_finish_le gate user _ scope now, ih⟩

/-- What it means that a selection keeps the items whose clusters the user may access, when it
starts at a moment. -/
structure FiltersAccess (ε : Type) (gate : AccessGate) (user : Option String) (items : List α)
    (clusterOf : α → String) (scope : Scope) (now : Nat) : Prop where
  /-- The items that are kept are those whose own check is passed, each as often as it is given and
  in the order in which they are. -/
  kept : (gate.filterAccessible user items clusterOf scope now : Run ε _).value =
    items.filter fun item =>
      lets (gate.check user (clusterOf item) scope now : Run ε _).value
  /-- These are the items whose clusters nobody is asked about, or that the policy grants in
  time. -/
  granted : ∀ item, item ∈ (gate.filterAccessible user items clusterOf scope now : Run ε _).value ↔
    item ∈ items ∧ (gate.Bypasses user ∨ gate.Grants user (clusterOf item) scope now)
  /-- It does not matter in which order the answers come in. -/
  inAnyOrder : ∀ order, (∀ place < items.length, place ∈ order) →
    allowedAmong items (Slots.after (decisions ε gate user items clusterOf scope now) order) =
      (gate.filterAccessible user items clusterOf scope now : Run ε _).value
  /-- A policy that does something else for one cluster changes nothing but which items of that
  cluster are kept. -/
  others : ∀ (policy other : AccessPolicy) (cluster : String), gate.policy = some policy →
    (∀ name elsewhere, elsewhere ≠ cluster → policy name elsewhere = other name elsewhere) →
    ({ gate with policy := some other }.filterAccessible user items clusterOf scope now :
        Run ε _).value.filter (clusterOf · ≠ cluster) =
      (gate.filterAccessible user items clusterOf scope now : Run ε _).value.filter
        (clusterOf · ≠ cluster)
  /-- The items of a cluster are all kept or all left out. -/
  together : ∀ cluster,
    (gate.filterAccessible user items clusterOf scope now : Run ε _).value.filter
        (clusterOf · = cluster) =
      if lets (gate.check user cluster scope now : Run ε _).value then
        items.filter (clusterOf · = cluster)
      else []
  /-- It comes to an end, however long the policy takes. -/
  ends : (gate.filterAccessible user items clusterOf scope now : Run ε _).finish ≤
    now + min gate.timeout (scope.remaining now)

/-- Whatever the policy does, a selection keeps the items whose clusters the user may access. -/
theorem filtersAccess (ε : Type) (gate : AccessGate) (user : Option String) (items : List α)
    (clusterOf : α → String) (scope : Scope) (now : Nat) :
    FiltersAccess ε gate user items clusterOf scope now where
  kept := filterAccessible_value gate user items clusterOf scope now
  granted := fun item => by
    rw [filterAccessible_value, List.mem_filter, lets_iff, check_eq_allow_iff]
  inAnyOrder := fun order hall => by
    have hlen : (decisions ε gate user items clusterOf scope now).length = items.length :=
      List.length_map _
    rw [Slots.after_eq_map_some (hlen ▸ hall), decisions, allowedAmong_map_some,
      filterAccessible_value]
  others := fun policy other cluster hpolicy hsame => by
    obtain ⟨_, timeout⟩ := gate
    cases hpolicy
    rw [filterAccessible_value, filterAccessible_value, List.filter_filter, List.filter_filter]
    refine List.filter_congr fun item _ => ?_
    by_cases helsewhere : clusterOf item = cluster
    · simp only [helsewhere, ne_eq, not_true_eq_false, decide_false, Bool.false_and]
    · rw [check_congr fun name => (hsame name (clusterOf item) helsewhere).symm]
  together := fun cluster => by
    rw [filterAccessible_value, List.filter_filter]
    by_cases hlets : lets (gate.check user cluster scope now : Run ε _).value = true
    · rw [if_pos hlets]
      refine List.filter_congr fun item _ => ?_
      by_cases hcluster : clusterOf item = cluster
      · rw [hcluster, hlets, Bool.and_true]
      · simp only [hcluster, decide_false, Bool.false_and]
    · rw [if_neg hlets, List.filter_eq_nil_iff]
      intro item _ hkept
      rw [Bool.and_eq_true, decide_eq_true_eq] at hkept
      exact hlets (hkept.1 ▸ hkept.2)
  ends := filterAccessible_finish_le gate user items clusterOf scope now

end AccessGate

end FleetDashboard
