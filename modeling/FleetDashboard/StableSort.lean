/-!
# Stable sorting

Each item is put behind the last of the items before it that is not greater, so equal items keep
their order. The comparison need not be consistent for the answer to be defined.
-/

namespace FleetDashboard

variable {α : Type}

/-- Puts an item into a list that holds the items before it, last first. -/
def place (cmp : α → α → Ordering) (item : α) : List α → List α
  | [] => [item]
  | last :: before =>
    if cmp item last = .lt then last :: place cmp item before else item :: last :: before

/-- The items in order; items that are equal keep their order. -/
def stableSort (cmp : α → α → Ordering) (items : List α) : List α :=
  (items.foldl (fun sorted item => place cmp item sorted) []).reverse

/-- Placing an item adds it and nothing else. -/
theorem place_perm (cmp : α → α → Ordering) (item : α) (sorted : List α) :
    (place cmp item sorted).Perm (item :: sorted) := by
  induction sorted with
  | nil => exact .refl _
  | cons last before ih =>
    unfold place
    split
    · exact (ih.cons last).trans (.swap _ _ _)
    · exact .refl _

private theorem foldl_place_perm (cmp : α → α → Ordering) (items sorted : List α) :
    (items.foldl (fun sorted item => place cmp item sorted) sorted).Perm (items ++ sorted) := by
  induction items generalizing sorted with
  | nil => exact .refl _
  | cons item rest ih =>
    refine (ih _).trans ?_
    refine ((place_perm cmp item sorted).append_left rest).trans ?_
    exact List.perm_middle

/-- Sorting rearranges the items. -/
theorem stableSort_perm (cmp : α → α → Ordering) (items : List α) :
    (stableSort cmp items).Perm items := by
  refine (List.reverse_perm _).trans ?_
  simpa using foldl_place_perm cmp items []

end FleetDashboard
