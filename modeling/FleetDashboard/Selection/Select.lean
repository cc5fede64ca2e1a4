import FleetDashboard.Selection.Query
import FleetDashboard.Selection.Value
import FleetDashboard.StableSort

/-!
# Selecting items

Selection keeps the items on which every filter holds, sorts them stably by the sort keys, and cuts
out a page. The number of items is reported before and after filtering.

* `matchesAll`: whether every filter holds on an item.
* `orderBy`: the order of two items under sort keys; an item without the property comes last.
* `arrange`: the items that the filters keep, in the order of the sort keys.
* `Page.cut`: the items of a page.
-/

namespace FleetDashboard.Selection

/-- Items whose properties can be asked for. -/
class HasProperties (α : Type) where
  /-- The value of a property, if the item has it. -/
  property? : α → Property → Option Value

export HasProperties (property?)

variable {α : Type}

/-! ## Filtering -/

/-- Whether the property is there and its text holds the term. -/
def Filter.holds [HasProperties α] (filter : Filter) (item : α) : Bool :=
  match property? item filter.property with
  | some value => value.contains filter.term
  | none => false

/-- Whether every filter holds on an item. -/
def matchesAll [HasProperties α] (filters : List Filter) (item : α) : Bool :=
  filters.all fun filter => filter.holds item

/-! ## Sorting -/

/-- The order of two property values under one key; a missing value comes last either way. -/
def SortKey.orderValues (key : SortKey) : Option Value → Option Value → Ordering
  | some a, some b => if key.ascending then a.compare b else b.compare a
  | some _, none => .lt
  | none, some _ => .gt
  | none, none => .eq

/-- The order of two items under one key. -/
def SortKey.order [HasProperties α] (key : SortKey) (a b : α) : Ordering :=
  key.orderValues (property? a key.property) (property? b key.property)

/-- The order of two items: the first key that tells them apart decides. -/
def orderBy [HasProperties α] (keys : List SortKey) (a b : α) : Ordering :=
  match keys with
  | [] => .eq
  | key :: rest => (key.order a b).then (orderBy rest a b)

/-! ## Pages -/

/-- The greatest 64-bit number; a page offset beyond it counts as it. -/
def maxOffset : Nat := 18446744073709551615

/-- How many items a page has under a cap; a size of zero asks for as many as the cap allows. -/
def Page.sizeUnder (page : Page) (cap : Nat) : Nat :=
  if page.size = 0 then max cap 1 else min page.size (max cap 1)

/-- The position of a page's first item. -/
def Page.start (page : Page) (cap : Nat) : Nat :=
  min ((max page.number 1 - 1) * page.sizeUnder cap) maxOffset

/-- The items of a page. -/
def Page.cut (page : Page) (cap : Nat) (items : List α) : List α :=
  (items.drop (page.start cap)).take (page.sizeUnder cap)

/-! ## Selection -/

/-- A page of selected items and the counts. -/
structure Selected (α : Type) where
  /-- The items of the page. -/
  items : List α
  /-- How many items there were. -/
  total : Nat
  /-- How many of them the filters kept. -/
  matched : Nat

/-- The items that the filters keep, in the order of the sort keys. -/
def arrange [HasProperties α] (query : Query) (items : List α) : List α :=
  let kept := items.filter (matchesAll query.filters)
  if query.sorts.isEmpty then kept else stableSort (orderBy query.sorts) kept

/-- What a query selects from items when a page may hold at most `cap` of them. -/
def select [HasProperties α] (items : List α) (query : Query) (cap : Nat) : Selected α :=
  { items := query.page.cut cap (arrange query items)
    total := items.length
    matched := (items.filter (matchesAll query.filters)).length }

end FleetDashboard.Selection
