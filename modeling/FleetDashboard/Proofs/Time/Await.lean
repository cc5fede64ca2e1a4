import FleetDashboard.Proofs.Time.Task

/-!
# How bounded waits end

A wait within a scope either yields its result or is given up. It yields its result when that is in
time: the scope is not cancelled at the start, and the result needs no wait, or it comes before the
cancellation and no later than the deadline.

* `Scope.InTime`: whether what comes after some milliseconds is in time.
* `Scope.giveUp`: how a wait ends that is given up, at the deadline or by cancellation.
* `Scope.await_after`, `Scope.await_never`: every wait ends in one of the two ways.
* `Scope.await_value`: the ending, from the result that comes in time, if one does.
* `Scope.InTime.of_le`: what is in time after a late start is so after an earlier one.
* `Scope.await_finish`: when a wait is over.
-/

namespace FleetDashboard

/-- The result of a wait, if it comes after a time that counts as in time. -/
def Wait.timely? {α : Type} (inTime : Nat → Prop) [DecidablePred inTime] : Wait α → Option α
  | .after ms result => if inTime ms then some result else none
  | .never => none

/-- A result that is in time is the one that the wait ends with. -/
theorem Wait.timely?_eq_some_iff {α : Type} {inTime : Nat → Prop} [DecidablePred inTime]
    {wait : Wait α} {result : α} :
    wait.timely? inTime = some result ↔ ∃ ms, wait = .after ms result ∧ inTime ms := by
  cases wait with
  | never => simp [timely?]
  | after ms own => simp [timely?, and_comm]

/-- The moment at which a wait that starts at `now` ends by itself, if it does. -/
def Wait.end? {α : Type} (now : Nat) : Wait α → Option Nat
  | .after ms _ => some (now + ms)
  | .never => none

/-- What is in time depends on nothing but which times count. -/
theorem Wait.timely?_congr {α : Type} {inTime inTime' : Nat → Prop} [DecidablePred inTime]
    [DecidablePred inTime'] (h : ∀ ms, inTime ms ↔ inTime' ms) (wait : Wait α) :
    wait.timely? inTime = wait.timely? inTime' := by
  cases wait with
  | never => rfl
  | after ms own => simp only [timely?, h ms]

namespace Scope

variable {α ε : Type} {scope : Scope} {now ms : Nat}

/-! ## In time -/

/-- What a wait that starts at `now` yields after `ms` milliseconds is in time. -/
def InTime (scope : Scope) (now ms : Nat) : Prop :=
  scope.isCancelled now = false ∧
    (ms = 0 ∨ now + ms ≤ scope.deadline ∧ scope.precedesCancel (now + ms) = true)

/-- Being in time is decidable. -/
instance (scope : Scope) (now : Nat) : DecidablePred (scope.InTime now) := fun ms =>
  inferInstanceAs (Decidable (scope.isCancelled now = false ∧
    (ms = 0 ∨ now + ms ≤ scope.deadline ∧ scope.precedesCancel (now + ms) = true)))

/-- A moment precedes the cancellation exactly when the scope is not cancelled by then. -/
theorem precedesCancel_iff {moment : Nat} :
    scope.precedesCancel moment = true ↔ scope.isCancelled moment = false := by
  unfold precedesCancel isCancelled
  cases scope.cancelledAt with
  | none => simp
  | some c => simp

/-- A scope that is not cancelled at a moment was not cancelled before. -/
theorem isCancelled_eq_false_of_le {earlier later : Nat} (h : scope.isCancelled later = false)
    (hle : earlier ≤ later) : scope.isCancelled earlier = false := by
  unfold isCancelled at *
  cases hc : scope.cancelledAt with
  | none => rfl
  | some c =>
    rw [hc] at h
    simp only [decide_eq_false_iff_not] at *
    omega

/-- What is in time after a late start is in time after an earlier one. -/
theorem InTime.of_le {earlier later : Nat} (h : scope.InTime later ms) (hle : earlier ≤ later) :
    scope.InTime earlier ms := by
  obtain ⟨hlive, hin⟩ := h
  refine ⟨isCancelled_eq_false_of_le hlive hle, ?_⟩
  -- what needs no wait needs none at any time, and any other result comes earlier too
  rcases hin with hzero | ⟨hdeadline, hcancel⟩
  · exact Or.inl hzero
  · rw [precedesCancel_iff] at hcancel
    have hcancel' := isCancelled_eq_false_of_le hcancel (Nat.add_le_add_right hle ms)
    exact Or.inr ⟨by omega, precedesCancel_iff.2 hcancel'⟩

/-- What is in time after a wait is in time after a shorter one. -/
theorem InTime.of_sooner {sooner : Nat} (h : scope.InTime now ms) (hle : sooner ≤ ms) :
    scope.InTime now sooner := by
  obtain ⟨hlive, hin⟩ := h
  refine ⟨hlive, ?_⟩
  rcases hin with hzero | ⟨hdeadline, hcancel⟩
  · exact Or.inl (by omega)
  · rw [precedesCancel_iff] at hcancel
    have hcancel' := isCancelled_eq_false_of_le hcancel (Nat.add_le_add_left hle now)
    exact Or.inr ⟨by omega, precedesCancel_iff.2 hcancel'⟩

/-- A scope that is cut to some milliseconds is cancelled when the whole one is. -/
@[simp]
theorem isCancelled_within (scope : Scope) (now limit moment : Nat) :
    (scope.within now limit).isCancelled moment = scope.isCancelled moment := rfl

/-- The deadline of a scope that is cut to some milliseconds. -/
@[simp]
theorem deadline_within (scope : Scope) (now limit : Nat) :
    (scope.within now limit).deadline = now + min limit (scope.deadline - now) := rfl

/-- In time within a scope that is cut to some milliseconds is what is in time within the whole
scope and takes no longer than those. -/
theorem inTime_within_iff {limit : Nat} :
    (scope.within now limit).InTime now ms ↔ ms ≤ limit ∧ scope.InTime now ms := by
  simp only [InTime, precedesCancel_iff, isCancelled_within, deadline_within]
  -- the cut deadline is the earlier of two, and a positive wait meets it if it meets both
  constructor
  · rintro ⟨hlive, hzero | ⟨hdeadline, hcancel⟩⟩
    · exact ⟨by omega, hlive, Or.inl hzero⟩
    · refine ⟨by omega, hlive, ?_⟩
      rcases Nat.eq_zero_or_pos ms with hzero | hpos
      · exact Or.inl hzero
      · exact Or.inr ⟨by omega, hcancel⟩
  · rintro ⟨hlimit, hlive, hzero | ⟨hdeadline, hcancel⟩⟩
    · exact ⟨hlive, Or.inl hzero⟩
    · exact ⟨hlive, Or.inr ⟨by omega, hcancel⟩⟩

/-! ## Giving up -/

/-- How a wait that starts at `now` ends when it does not yield its result. -/
def giveUp (scope : Scope) (now : Nat) : Timed (Ending α) :=
  if scope.isCancelled now then ⟨.cancelled, now⟩ else scope.expire now

/-- A wait that is given up was cancelled, if the scope is by the deadline, or else was late. -/
theorem giveUp_value (scope : Scope) (now : Nat) :
    (scope.giveUp now : Timed (Ending α)).value =
      if scope.isCancelled (max now scope.deadline) then .cancelled else .late := by
  unfold giveUp expire isCancelled
  cases scope.cancelledAt with
  | none => rfl
  | some c =>
    -- a scope that is cancelled at the start is so by the deadline, so the branches agree
    by_cases hnow : c ≤ now
    · have hlimit : c ≤ max now scope.deadline := Nat.le_trans hnow (Nat.le_max_left _ _)
      simp [hnow, hlimit]
    · by_cases hlimit : c ≤ max now scope.deadline
      · simp [hnow, hlimit]
      · simp [hnow, hlimit]

/-- A wait is given up when it is cancelled, or at the deadline; at once if that has passed. -/
theorem giveUp_finish (scope : Scope) (now : Nat) :
    (scope.giveUp now : Timed (Ending α)).finish =
      max now (scope.cancelledAt.toList.foldl min scope.deadline) := by
  unfold giveUp expire isCancelled
  cases scope.cancelledAt with
  | none => rfl
  | some c =>
    by_cases hnow : c ≤ now
    · simp only [hnow, decide_true, ↓reduceIte, Option.toList_some, List.foldl_cons, List.foldl_nil]
      omega
    · -- a cancellation to come ends the wait if it is no later than the deadline
      by_cases hlimit : c ≤ max now scope.deadline
      · simp only [hnow, hlimit, decide_false, Bool.false_eq_true, ↓reduceIte, Option.toList_some,
          List.foldl_cons, List.foldl_nil]
        omega
      · simp only [hnow, hlimit, decide_false, Bool.false_eq_true, ↓reduceIte, Option.toList_some,
          List.foldl_cons, List.foldl_nil]
        omega

/-! ## Every wait -/

/-- A wait that ends by itself yields its result if that is in time and is given up otherwise. -/
theorem await_after (scope : Scope) (now ms : Nat) (result : α) :
    scope.await now (.after ms result) =
      if scope.InTime now ms then ⟨.result result, now + ms⟩ else scope.giveUp now := by
  unfold await InTime giveUp
  by_cases hlive : scope.isCancelled now
  · simp [hlive]
  · -- no wait at all is a case of its own: it is in time even past the deadline
    cases ms with
    | zero => simp [hlive]
    | succ ms => simp [hlive]

/-- A wait that never ends by itself is given up. -/
theorem await_never (scope : Scope) (now : Nat) :
    scope.await now (.never : Wait α) = scope.giveUp now := rfl

/-- A wait comes to the result that is in time, or else it was cancelled or late. -/
theorem await_value (scope : Scope) (now : Nat) (wait : Wait α) :
    (scope.await now wait).value =
      match wait.timely? (scope.InTime now) with
      | some result => .result result
      | none => if scope.isCancelled (max now scope.deadline) then .cancelled else .late := by
  cases wait with
  | never =>
    rw [await_never, giveUp_value]
    rfl
  | after ms result =>
    rw [await_after, Wait.timely?]
    by_cases hin : scope.InTime now ms
    · rw [if_pos hin, if_pos hin]
    · rw [if_neg hin, if_neg hin, giveUp_value]

/-- A result is yielded exactly when the wait comes to it in time. -/
theorem await_value_eq_result_iff {wait : Wait α} {result : α} :
    (scope.await now wait).value = .result result ↔
      ∃ ms, wait = .after ms result ∧ scope.InTime now ms := by
  -- a wait that is given up ends without any result
  have hgiveUp : (scope.giveUp now : Timed (Ending α)).value ≠ .result result := by
    rw [giveUp_value]
    split <;> simp
  cases wait with
  | never => simp [await_never, hgiveUp]
  | after ms value =>
    rw [await_after]
    by_cases hin : scope.InTime now ms
    · simp only [hin, ↓reduceIte, Ending.result.injEq, Wait.after.injEq]
      constructor
      · rintro rfl
        exact ⟨ms, ⟨rfl, rfl⟩, hin⟩
      · rintro ⟨_, ⟨-, hvalue⟩, -⟩
        exact hvalue
    · simp only [hin, ↓reduceIte, hgiveUp, Wait.after.injEq, false_iff]
      rintro ⟨_, ⟨rfl, -⟩, hin'⟩
      exact hin hin'

/-! ## When waits are over -/

/-- The earliest of what ends a wait that starts at `now`: its own end, the deadline and the
cancellation. -/
def endOf (scope : Scope) (now : Nat) (wait : Wait α) : Nat :=
  ((wait.end? now).toList ++ scope.cancelledAt.toList).foldl min scope.deadline

theorem endOf_le_deadline (scope : Scope) (now : Nat) (wait : Wait α) :
    scope.endOf now wait ≤ scope.deadline := by
  unfold endOf
  cases wait.end? now <;> cases scope.cancelledAt <;>
    simp only [Option.toList_none, Option.toList_some, List.nil_append, List.append_nil,
      List.cons_append, List.foldl_cons, List.foldl_nil] <;>
    omega

/-- A wait is over at the earliest of what ends it, or at once if that has passed. -/
theorem await_finish (scope : Scope) (now : Nat) (wait : Wait α) :
    (scope.await now wait).finish = max now (scope.endOf now wait) := by
  cases wait with
  | never =>
    rw [await_never, giveUp_finish]
    rfl
  | after ms result =>
    have hend : scope.endOf now (.after ms result) =
        scope.cancelledAt.toList.foldl min (min scope.deadline (now + ms)) := rfl
    rw [await_after, hend]
    split
    next hin =>
      obtain ⟨hlive, hin⟩ := hin
      rw [isCancelled] at hlive
      rw [precedesCancel] at hin
      cases hc : scope.cancelledAt with
      | none =>
        simp only [hc, and_true, Option.toList_none, List.foldl_nil] at hin ⊢
        omega
      | some c =>
        simp only [hc, decide_eq_false_iff_not, decide_eq_true_eq, Option.toList_some,
          List.foldl_cons, List.foldl_nil] at hlive hin ⊢
        omega
    next hlate =>
      -- what is not in time comes no sooner than something else that ends the wait
      rw [InTime, isCancelled, precedesCancel] at hlate
      rw [giveUp_finish]
      cases hc : scope.cancelledAt with
      | none =>
        simp only [hc, and_true, true_and, Option.toList_none, List.foldl_nil] at hlate ⊢
        omega
      | some c =>
        simp only [hc, decide_eq_false_iff_not, decide_eq_true_eq, Option.toList_some,
          List.foldl_cons, List.foldl_nil] at hlate ⊢
        omega

/-- A bounded wait goes forward in time. -/
theorem forward_await (scope : Scope) (wait : Wait α) :
    (Task.await scope wait : Task ε (Ending α)).Forward := by
  intro now
  rw [Task.await_run, await_finish]
  exact Nat.le_max_left _ _

/-- A bounded wait is over by the deadline. -/
theorem await_finish_le (scope : Scope) (now : Nat) (wait : Wait α) :
    (scope.await now wait).finish ≤ max now scope.deadline := by
  have hend := scope.endOf_le_deadline now wait
  rw [await_finish]
  omega

end Scope

end FleetDashboard
