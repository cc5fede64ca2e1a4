import Mathlib.Data.Set.Defs
import FleetDashboard.StableSort

/-!
# Stable sorting, proved

What sorting does when the comparison is consistent on the items that are sorted. It need not be
consistent on all others, so the assumption is one about a set of items.

* `IsPreorderOn`: the comparison is a total preorder on a set.
* `IsPreorderOn.lex`: so is one that falls back on another one.
* `pairwise_stableSort`: the sorted items are in order.
* `filter_stableSort`: items that are not told apart keep their order, whatever the comparison.
* `stableSort_eq_self`: items in order stay as they are.
-/

namespace FleetDashboard

variable {α : Type} {cmp : α → α → Ordering} {s : Set α} {item : α} {items sorted : List α}

/-- The comparison is a total preorder on a set: reversing it reverses the answer, and it is
transitive, ties included. -/
structure IsPreorderOn (cmp : α → α → Ordering) (s : Set α) : Prop where
  /-- Reversing the comparison reverses the answer. -/
  swap : ∀ ⦃a⦄, a ∈ s → ∀ ⦃b⦄, b ∈ s → (cmp a b).swap = cmp b a
  /-- What is not greater than something not greater is not greater. -/
  trans : ∀ ⦃a⦄, a ∈ s → ∀ ⦃b⦄, b ∈ s → ∀ ⦃c⦄, c ∈ s →
    (cmp a b).isLE → (cmp b c).isLE → (cmp a c).isLE

namespace IsPreorderOn

theorem mono {t : Set α} (h : IsPreorderOn cmp t) (hst : s ⊆ t) : IsPreorderOn cmp s where
  swap _ ha _ hb := h.swap (hst ha) (hst hb)
  trans _ ha _ hb _ hc := h.trans (hst ha) (hst hb) (hst hc)

theorem isLE_of_lt (h : IsPreorderOn cmp s) {a b : α} (ha : a ∈ s) (hb : b ∈ s)
    (hnot : ¬ cmp b a = .lt) : (cmp a b).isLE := by
  rw [← h.swap hb ha]
  cases hcmp : cmp b a with
  | lt => exact absurd hcmp hnot
  | eq => rfl
  | gt => rfl

/-- Tied items stand in the same relation to every other item. -/
theorem eq_of_eq (h : IsPreorderOn cmp s) {a b c : α} (ha : a ∈ s) (hb : b ∈ s) (hc : c ∈ s)
    (hab : cmp a b = .eq) : cmp a c = cmp b c := by
  have hba : cmp b a = .eq := by rw [← h.swap ha hb, hab]; rfl
  -- each side is at most the other one, read from both ends
  have hle : (cmp a c).isLE ↔ (cmp b c).isLE :=
    ⟨h.trans hb ha hc (by rw [hba]; rfl), h.trans ha hb hc (by rw [hab]; rfl)⟩
  have hge : (cmp c a).isLE ↔ (cmp c b).isLE :=
    ⟨fun hca => h.trans hc ha hb hca (by rw [hab]; rfl),
      fun hcb => h.trans hc hb ha hcb (by rw [hba]; rfl)⟩
  rw [← h.swap ha hc, ← h.swap hb hc] at hge
  cases hac : cmp a c <;> cases hbc : cmp b c <;> simp_all

/-- Comparing in one way first and then in another way. -/
theorem lex {cmp' : α → α → Ordering} (h : IsPreorderOn cmp s) (h' : IsPreorderOn cmp' s) :
    IsPreorderOn (fun a b => (cmp a b).then (cmp' a b)) s where
  swap a ha b hb := by rw [Ordering.swap_then, h.swap ha hb, h'.swap ha hb]
  trans a ha b hb c hc hab hbc := by
    simp only [Ordering.isLE_then_iff_and] at hab hbc ⊢
    have hac := h.trans ha hb hc hab.1 hbc.1
    refine ⟨hac, ?_⟩
    rcases Ordering.isLE_iff_eq_lt_or_eq_eq.1 hac with hlt | heq
    · exact Or.inl hlt
    · -- the ends are tied, so the item between them is tied with both
      have hca : cmp c a = .eq := by rw [← h.swap ha hc, heq]; rfl
      have hba : (cmp b a).isLE := h.trans hb hc ha hbc.1 (by rw [hca]; rfl)
      have hcb : (cmp c b).isLE := h.trans hc ha hb (by rw [hca]; rfl) hab.1
      have hnotAb : cmp a b ≠ .lt := fun hlt => by
        rw [← h.swap ha hb, hlt] at hba
        cases hba
      have hnotBc : cmp b c ≠ .lt := fun hlt => by
        rw [← h.swap hb hc, hlt] at hcb
        cases hcb
      exact Or.inr (h'.trans ha hb hc (hab.2.resolve_left hnotAb) (hbc.2.resolve_left hnotBc))

end IsPreorderOn

/-! ## Order -/

theorem pairwise_place (h : IsPreorderOn cmp s) (hitem : item ∈ s) (hmem : ∀ a ∈ sorted, a ∈ s)
    (hsorted : sorted.Pairwise fun later earlier => (cmp earlier later).isLE) :
    (place cmp item sorted).Pairwise fun later earlier => (cmp earlier later).isLE := by
  -- the list is held back to front, so the item first meets the greatest of it
  induction sorted with
  | nil => exact List.pairwise_singleton _ _
  | cons last before ih =>
    obtain ⟨hlast, hbefore⟩ := List.forall_mem_cons.1 hmem
    obtain ⟨hle, hrest⟩ := List.pairwise_cons.1 hsorted
    rw [place]
    split
    case isTrue hlt =>
      refine List.pairwise_cons.2 ⟨fun a ha => ?_, ih hbefore hrest⟩
      rcases List.mem_cons.1 ((place_perm cmp item before).mem_iff.1 ha) with rfl | ha
      · rw [hlt]
        rfl
      · exact hle a ha
    case isFalse hnot =>
      -- the item is at least the last one, hence at least all before it
      have hitemLast := h.isLE_of_lt hlast hitem hnot
      refine List.pairwise_cons.2 ⟨fun a ha => ?_, hsorted⟩
      rcases List.mem_cons.1 ha with rfl | ha
      · exact hitemLast
      · exact h.trans (hbefore a ha) hlast hitem (hle a ha) hitemLast

theorem pairwise_foldl_place (h : IsPreorderOn cmp s) (hitems : ∀ a ∈ items, a ∈ s)
    (hmem : ∀ a ∈ sorted, a ∈ s)
    (hsorted : sorted.Pairwise fun later earlier => (cmp earlier later).isLE) :
    (items.foldl (fun sorted item => place cmp item sorted) sorted).Pairwise
      fun later earlier => (cmp earlier later).isLE := by
  -- what is sorted so far stays in order and within the set
  induction items generalizing sorted with
  | nil => exact hsorted
  | cons item rest ih =>
    obtain ⟨hitem, hrest⟩ := List.forall_mem_cons.1 hitems
    refine ih hrest (fun a ha => ?_) (pairwise_place h hitem hmem hsorted)
    rcases List.mem_cons.1 ((place_perm cmp item sorted).mem_iff.1 ha) with rfl | ha
    · exact hitem
    · exact hmem a ha

/-- The sorted items are in order. -/
theorem pairwise_stableSort (h : IsPreorderOn cmp {a | a ∈ items}) :
    (stableSort cmp items).Pairwise fun a b => (cmp a b).isLE :=
  List.pairwise_reverse.2 <|
    pairwise_foldl_place h (fun _ ha => ha) (fun _ ha => absurd ha List.not_mem_nil) .nil

/-! ## Stability -/

theorem filter_place {p : α → Bool}
    (htied : ∀ a ∈ sorted, p item → p a → cmp item a ≠ .lt) :
    (place cmp item sorted).filter p = (item :: sorted).filter p := by
  induction sorted with
  | nil => rfl
  | cons last before ih =>
    obtain ⟨hlast, hbefore⟩ := List.forall_mem_cons.1 htied
    rw [place]
    split
    case isTrue hlt =>
      -- the item overtakes only what it is told apart from
      rw [List.filter_cons, ih hbefore]
      cases hitem : p item with
      | false => simp [List.filter_cons, hitem]
      | true =>
        have hpl : p last = false := by
          cases hpl : p last with
          | false => rfl
          | true => exact absurd hlt (hlast hitem hpl)
        simp [hitem, hpl]
    case isFalse hnot => rfl

theorem filter_foldl_place {p : α → Bool}
    (htied : ∀ a ∈ items, ∀ b ∈ items ++ sorted, p a → p b → cmp a b ≠ .lt) :
    (items.foldl (fun sorted item => place cmp item sorted) sorted).filter p =
      (items.reverse ++ sorted).filter p := by
  induction items generalizing sorted with
  | nil => rfl
  | cons item rest ih =>
    have hplace := place_perm cmp item sorted
    rw [List.foldl_cons, ih, List.filter_append, filter_place, ← List.filter_append]
    · simp
    -- both lemmas compare only what is still to come or was placed already
    · intro a ha
      exact htied item List.mem_cons_self a (List.mem_append_right _ ha)
    · intro a ha b hb
      refine htied a (List.mem_cons_of_mem _ ha) b ?_
      rcases List.mem_append.1 hb with hrest | hplaced
      · exact List.mem_append_left _ (List.mem_cons_of_mem _ hrest)
      · rcases List.mem_cons.1 (hplace.mem_iff.1 hplaced) with rfl | hbefore
        · exact List.mem_append_left _ List.mem_cons_self
        · exact List.mem_append_right _ hbefore

/-- Items of which none counts as less than another keep their order. -/
theorem filter_stableSort {p : α → Bool}
    (htied : ∀ a ∈ items, ∀ b ∈ items, p a → p b → cmp a b ≠ .lt) :
    (stableSort cmp items).filter p = items.filter p := by
  rw [stableSort, List.filter_reverse, filter_foldl_place (by simpa using htied), List.append_nil,
    List.filter_reverse, List.reverse_reverse]

/-! ## Sorting what is sorted -/

theorem foldl_place_eq_append
    (hsorted : (sorted.reverse ++ items).Pairwise fun a b => cmp b a ≠ .lt) :
    items.foldl (fun sorted item => place cmp item sorted) sorted = items.reverse ++ sorted := by
  induction items generalizing sorted with
  | nil => rfl
  | cons item rest ih =>
    -- every item goes behind all that were placed, that is, in front of the list of them
    have hplace : place cmp item sorted = item :: sorted := by
      cases sorted with
      | nil => rfl
      | cons last before =>
        have hnot : cmp item last ≠ .lt :=
          (List.pairwise_append.1 hsorted).2.2 last (by simp) item List.mem_cons_self
        rw [place, if_neg hnot]
    rw [List.foldl_cons, hplace, ih (by simpa using hsorted)]
    simp

/-- Items of which none counts as less than one before it stay as they are. -/
theorem stableSort_eq_self (hsorted : items.Pairwise fun a b => cmp b a ≠ .lt) :
    stableSort cmp items = items := by
  rw [stableSort, foldl_place_eq_append (by simpa using hsorted), List.append_nil,
    List.reverse_reverse]

end FleetDashboard
