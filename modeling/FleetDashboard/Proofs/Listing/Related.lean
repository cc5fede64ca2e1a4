import Mathlib.Data.List.Forall2
import FleetDashboard.Proofs.Listing.Gather

/-!
# Two listings that differ in their results only

Two servers answer after the same time and in the same way, with results that are related. What
becomes of a kind is then related as well, and it takes the same time.

* `Wait.Related`, `Reply.Related`, `ListOutcome.Related`: two waits, replies or outcomes that differ
  in their results only.
* `Lister.related_outcome`, `Lister.gather_finish_of_related`: listings that differ in their results
  only come to outcomes that do, at the same time.
-/

namespace FleetDashboard

variable {α : Type} {R : α → α → Prop}

/-! ## Waits and replies -/

/-- Two waits of one length, with results that are related. -/
inductive Wait.Related (R : α → α → Prop) : Wait α → Wait α → Prop where
  /-- Both yield their results after as long. -/
  | after (ms : Nat) {result other : α} (h : R result other) :
    Wait.Related R (.after ms result) (.after ms other)
  /-- Neither ends. -/
  | never : Wait.Related R .never .never

/-- Two replies of one form, with answers that are related. -/
inductive Reply.Related (R : α → α → Prop) : Reply α → Reply α → Prop where
  /-- Both are answers. -/
  | answer {value other : α} (h : R value other) : Reply.Related R (.answer value) (.answer other)
  /-- Both are one failure. -/
  | failure (failure : ServerFailure) : Reply.Related R (.failure failure) (.failure failure)
  /-- Both broke off. -/
  | broken : Reply.Related R .broken .broken

/-- What is related is also related in a wider sense. -/
theorem Wait.Related.imp {S : α → α → Prop} {wait other : Wait α} (h : wait.Related R other)
    (himp : ∀ result other, R result other → S result other) : wait.Related S other := by
  cases h with
  | after ms h => exact .after ms (himp _ _ h)
  | never => exact .never

theorem Reply.Related.imp {S : α → α → Prop} {reply other : Reply α} (h : reply.Related R other)
    (himp : ∀ answer other, R answer other → S answer other) : reply.Related S other := by
  cases h with
  | answer h => exact .answer (himp _ _ h)
  | failure failure => exact .failure failure
  | broken => exact .broken

/-- Listings whose objects are related one by one are also related in a wider sense. -/
theorem Wait.Related.imp_objects {S T : ApiObject → ApiObject → Prop}
    {wait other : Wait (Reply (List ApiObject))}
    (h : wait.Related (Reply.Related (List.Forall₂ S)) other)
    (himp : ∀ object other, S object other → T object other) :
    wait.Related (Reply.Related (List.Forall₂ T)) other :=
  h.imp fun _ _ hreply => hreply.imp fun _ _ hobjects => hobjects.imp himp

/-- Within a scope, waits that differ in their results only are over at the same time. -/
theorem Wait.Related.endOf_eq {wait other : Wait α} (h : wait.Related R other) (scope : Scope)
    (now : Nat) : scope.endOf now other = scope.endOf now wait := by
  cases h with
  | never => rfl
  | after ms _ => rfl

/-! ## Outcomes -/

/-- Two outcomes of one form, with objects that are related. -/
inductive ListOutcome.Related (R : List ApiObject → List ApiObject → Prop) :
    ListOutcome → ListOutcome → Prop where
  /-- Both have objects. -/
  | ok {objects others : List ApiObject} (h : R objects others) :
    ListOutcome.Related R (.ok objects) (.ok others)
  /-- Both are one failure. -/
  | error (failure : ServerFailure) : ListOutcome.Related R (.error failure) (.error failure)

namespace ListOutcome

/-- Both are there, or both failed in the same way. -/
theorem Related.failure?_eq {R : List ApiObject → List ApiObject → Prop}
    {outcome other : ListOutcome} (h : outcome.Related R other) :
    other.failure? = outcome.failure? := by
  cases h with
  | ok _ => rfl
  | error failure => rfl

/-- The objects are related one by one; there are none if both failed. -/
theorem Related.objects {S : ApiObject → ApiObject → Prop} {outcome other : ListOutcome}
    (h : outcome.Related (List.Forall₂ S) other) :
    List.Forall₂ S outcome.objects other.objects := by
  cases h with
  | ok hobjects => exact hobjects
  | error failure => exact .nil

theorem related_ofTimely_none {R : List ApiObject → List ApiObject → Prop}
    (kind : ResourceKind) (cancelled : Bool) :
    ListOutcome.Related R (.ofTimely kind cancelled none) (.ofTimely kind cancelled none) := by
  cases cancelled with
  | false => exact .error _
  | true => exact .error _

/-- Listings that differ in their results only come to outcomes that do: one is in time exactly when
the other is. -/
theorem related_ofTimely {R : List ApiObject → List ApiObject → Prop}
    {wait other : Wait (Reply (List ApiObject))} (h : wait.Related (Reply.Related R) other)
    (kind : ResourceKind) (cancelled : Bool) (inTime : Nat → Prop) [DecidablePred inTime] :
    ListOutcome.Related R (.ofTimely kind cancelled (wait.timely? inTime))
      (.ofTimely kind cancelled (other.timely? inTime)) := by
  cases h with
  | never => exact related_ofTimely_none kind cancelled
  | after ms hreply =>
    by_cases hin : inTime ms
    · simp only [Wait.timely?, if_pos hin]
      cases hreply with
      | answer hobjects => exact .ok hobjects
      | failure failure => exact .error failure
      | broken => exact .error _
    · simp only [Wait.timely?, if_neg hin]
      exact related_ofTimely_none kind cancelled

end ListOutcome

namespace Lister

variable {lister other : Lister} {kind : ResourceKind} {wanted : Namespaces}
  {R : List ApiObject → List ApiObject → Prop}

theorem related_outcome (h : (lister.list kind wanted).Related (Reply.Related R)
    (other.list kind wanted)) (scope : Scope) (now : Nat) :
    (lister.outcome wanted scope now kind).Related R (other.outcome wanted scope now kind) :=
  ListOutcome.related_ofTimely h kind _ (scope.InTime now)

/-- Gathering a kind whose listings differ in their results only is over at the same time. -/
theorem gather_finish_of_related (h : (lister.list kind wanted).Related (Reply.Related R)
    (other.list kind wanted)) (scope : Scope) (now : Nat) :
    (other.gather [kind] wanted scope now).finish =
      (lister.gather [kind] wanted scope now).finish := by
  rw [gather_finish, gather_finish, lastEnd_cons, lastEnd_cons, h.endOf_eq]
  rfl

end Lister

end FleetDashboard
