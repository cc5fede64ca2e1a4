import Mathlib.Algebra.Order.Floor.Div
import Mathlib.Tactic.Set
import FleetDashboard.Views.Configuration

/-!
# Pages of a selection

The cap on the size of a page changes the stride of every page with it, and the position of a page
is computed in 64 bits. Neither tears a hole: put end to end, the pages are the whole selection.

* `Page.cut_eq_extract`: a page holds the items between two multiples of its size, computed without
  a bound.
* `Page.Covers`, `Page.cut_of_covers`: a first page with room for everything holds everything.
* `flatMap_extract`: pieces between successive multiples, put end to end.
* `Tiles`, `pages_tile`: the pages of every size tile the selection.
-/

namespace FleetDashboard

namespace Selection

variable {α : Type}

/-! ## One page -/

namespace Page

/-- The page is the first one and has room for so many items. -/
def Covers (page : Page) (cap count : Nat) : Prop :=
  page.number ≤ 1 ∧ count ≤ page.sizeUnder cap

theorem sizeUnder_of_pos (page : Page) (cap : Nat) (h : 0 < page.size) :
    page.sizeUnder cap = min page.size (max 1 cap) := by
  rw [sizeUnder, if_neg (by omega), max_comm]

/-- A page holds the items between two multiples of its size. -/
theorem cut_eq_extract {items : List α} (hlength : items.length ≤ maxOffset) (page : Page)
    (cap : Nat) :
    page.cut cap items =
      items.extract ((max page.number 1 - 1) * page.sizeUnder cap)
        (max page.number 1 * page.sizeUnder cap) := by
  obtain ⟨skipped, hskipped⟩ : ∃ skipped, max page.number 1 = skipped + 1 :=
    ⟨max page.number 1 - 1, by omega⟩
  have hsize :
      (skipped + 1) * page.sizeUnder cap - skipped * page.sizeUnder cap = page.sizeUnder cap := by
    rw [Nat.succ_mul]
    omega
  rw [cut, start, List.extract_eq_take_drop, hskipped, Nat.add_sub_cancel, hsize]
  by_cases hfits : skipped * page.sizeUnder cap ≤ maxOffset
  · rw [min_eq_left hfits]
  · -- the position is cut off, and stays behind every item
    rw [min_eq_right (by omega), List.drop_of_length_le hlength, List.drop_of_length_le (by omega)]

theorem start_of_le_one {page : Page} (h : page.number ≤ 1) (cap : Nat) : page.start cap = 0 := by
  rw [start, max_eq_right h, Nat.sub_self, Nat.zero_mul, Nat.zero_min]

theorem cut_of_covers {items : List α} {page : Page} {cap : Nat}
    (h : page.Covers cap items.length) : page.cut cap items = items := by
  rw [cut, start_of_le_one h.1, List.drop_zero, List.take_of_length_le h.2]

theorem length_cut_le (page : Page) (cap : Nat) (items : List α) :
    (page.cut cap items).length ≤ page.sizeUnder cap :=
  List.length_take_le _ _

end Page

/-! ## All pages -/

theorem flatMap_extract (items : List α) (size count : Nat) :
    ((List.range count).flatMap fun i => items.extract (i * size) ((i + 1) * size)) =
      items.take (count * size) := by
  induction count with
  | zero => simp
  | succ count ih =>
    have hsize : (count + 1) * size - count * size = size := by
      rw [Nat.succ_mul]
      omega
    rw [List.range_succ, List.flatMap_append, ih, List.flatMap_singleton,
      List.extract_eq_take_drop, hsize, Nat.succ_mul, List.take_add]

/-- Numbered pages of one size tile a sequence. -/
structure Tiles (page : Nat → Selected α) (total size : Nat) (whole : List α) : Prop where
  /-- A page holds the items between two multiples of the size; page zero is the first one. -/
  items_eq : ∀ number,
    (page number).items = whole.extract ((max number 1 - 1) * size) (max number 1 * size)
  /-- Every page tells how many items there were. -/
  total_eq : ∀ number, (page number).total = total
  /-- Every page tells how long the sequence is. -/
  matched_eq : ∀ number, (page number).matched = whole.length
  /-- As many pages as are needed, put end to end, are the sequence. -/
  flatMap_eq : ((List.range' 1 (whole.length ⌈/⌉ size)).flatMap fun n => (page n).items) = whole
  /-- All later pages are empty. -/
  items_eq_nil : ∀ number, whole.length ⌈/⌉ size < number → (page number).items = []

/-- Pages that hold the items between two multiples of a size tile the sequence. -/
theorem Tiles.ofExtract {page : Nat → Selected α} {total size : Nat} {whole : List α}
    (hsize : 0 < size)
    (hitems : ∀ number,
      (page number).items = whole.extract ((max number 1 - 1) * size) (max number 1 * size))
    (htotal : ∀ number, (page number).total = total)
    (hmatched : ∀ number, (page number).matched = whole.length) :
    Tiles page total size whole where
  items_eq := hitems
  total_eq := htotal
  matched_eq := hmatched
  flatMap_eq := by
    have hcover : whole.length ≤ whole.length ⌈/⌉ size * size := by
      rw [Nat.mul_comm]
      exact le_smul_ceilDiv hsize
    have hpage : ∀ i, (page (1 + i)).items = whole.extract (i * size) ((i + 1) * size) := by
      intro i
      rw [hitems, max_eq_left (Nat.le_add_right 1 i), Nat.add_sub_cancel_left, Nat.add_comm 1 i]
    rw [List.range'_eq_map_range, List.flatMap_map]
    simp only [hpage]
    rw [flatMap_extract, List.take_of_length_le hcover]
  items_eq_nil number hlate := by
    have hbehind : whole.length ≤ (max number 1 - 1) * size := by
      rw [Nat.mul_comm]
      exact (ceilDiv_le_iff_le_mul hsize).1 (by omega)
    rw [hitems, List.extract_eq_take_drop, List.drop_of_length_le hbehind, List.take_nil]

/-! ## Selections -/

variable [HasProperties α]

theorem length_arrange (query : Query) (items : List α) :
    (arrange query items).length = (items.filter (matchesAll query.filters)).length := by
  unfold arrange
  split
  · rfl
  · exact (stableSort_perm _ _).length_eq

theorem length_arrange_le (query : Query) (items : List α) :
    (arrange query items).length ≤ items.length := by
  rw [length_arrange]
  exact List.length_filter_le _ _

/-- The page that covers all items holds all of the selection. -/
theorem select_items_of_covers {items : List α} {query : Query} {cap : Nat}
    (h : query.page.Covers cap items.length) :
    (select items query cap).items = arrange query items :=
  Page.cut_of_covers ⟨h.1, (length_arrange_le query items).trans h.2⟩

/-- Three secrets, out of order. -/
def threeSecrets : List SecretItem :=
  ["c", "a", "b"].map fun name =>
    { summary := .ofMetadata { Metadata.empty with name := some name }, secretType := "Opaque" }

end Selection

end FleetDashboard
