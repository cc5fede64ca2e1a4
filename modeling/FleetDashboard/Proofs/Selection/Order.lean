import Mathlib.Data.String.Basic
import FleetDashboard.Proofs.StableSort
import FleetDashboard.Selection.Select

/-!
# The order of items

Values of one variety are in a total order: whole numbers by size, doubles in the IEEE total order,
moments chronologically and texts by code point. Values of different varieties are compared all the
same, but not consistently. So items are in a consistent order under sort keys if each key finds
values of one variety only.

* `Value.Before`, `SortKey.Before`, `Precedes`: what stands before what, said without comparisons.
* `OneVariety`: the values of a property are of one variety.
* `Value.compare_eq_lt_iff`, `orderBy_eq_lt_iff`: comparing decides what stands before what.
* `isPreorderOn_orderBy`: the order under any sort keys is a total preorder on such items.
-/

namespace FleetDashboard

/-! ## Texts -/

namespace Text

theorem compareLex_eq_lt_iff {cs ds : List Char} :
    List.compareLex Ord.compare cs ds = .lt ↔ cs < ds := by
  induction cs generalizing ds with
  | nil => cases ds <;> simp [List.compareLex]
  | cons c cs ih =>
    cases ds with
    | nil => simp [List.compareLex]
    | cons d ds =>
      rw [List.compareLex_cons_cons, Ordering.then_eq_lt, ih, List.cons_lt_cons_iff,
        Std.LawfulLTCmp.eq_lt_iff_lt, Std.compare_eq_iff_eq]

/-- Texts are compared by code point. -/
theorem compare_eq_lt_iff {a b : String} : compare a b = .lt ↔ a < b := by
  rw [compare, compareLex_eq_lt_iff, String.lt_iff_toList_lt]

theorem compare_eq_eq_iff {a b : String} : compare a b = .eq ↔ a = b := by
  rw [compare, Std.LawfulEqCmp.compare_eq_iff_eq, String.toList_inj]

instance : Std.TransCmp compare :=
  have hlex : Std.TransCmp (List.compareLex (Ord.compare : Char → Char → Ordering)) := inferInstance
  { eq_swap := hlex.eq_swap, isLE_trans := hlex.isLE_trans }

end Text

/-! ## Doubles -/

namespace Double

/-- The IEEE total order: a set sign bit stands before a clear one; below the sign, the bits count
up for positive numbers and down for negative ones. -/
def Before (x y : Double) : Prop :=
  if x.isNegative then
    if y.isNegative then y.bits < x.bits else True
  else
    if y.isNegative then False else x.bits < y.bits

theorem isNegative_iff {x : Double} : x.isNegative ↔ 9223372036854775808 ≤ x.bits.toNat := by
  simp [isNegative, UInt64.le_iff_toNat_le]

theorem compare_eq_lt_iff {x y : Double} : compare x y = .lt ↔ x.Before y := by
  have hx := x.bits.toNat_lt
  have hy := y.bits.toNat_lt
  rw [compare, Int.compare_eq_lt, Before]
  simp only [isNegative_iff, UInt64.lt_iff_toNat_lt, orderKey, ← Nat.not_le]
  -- the sign decides both the key and the direction in which the bits count
  by_cases hnegX : 9223372036854775808 ≤ x.bits.toNat
  · by_cases hnegY : 9223372036854775808 ≤ y.bits.toNat
    · simp only [hnegX, hnegY, not_true_eq_false, ↓reduceIte]
      omega
    · simp only [hnegX, hnegY, not_true_eq_false, not_false_eq_true, ↓reduceIte, iff_true]
      omega
  · by_cases hnegY : 9223372036854775808 ≤ y.bits.toNat
    · simp only [hnegX, hnegY, not_true_eq_false, not_false_eq_true, ↓reduceIte, iff_false]
      omega
    · simp only [hnegX, hnegY, not_false_eq_true, ↓reduceIte]
      omega

theorem compare_eq_eq_iff {x y : Double} : compare x y = .eq ↔ x = y := by
  have hx := x.bits.toNat_lt
  have hy := y.bits.toNat_lt
  have hbits : x = y ↔ x.bits.toNat = y.bits.toNat := by
    cases x
    cases y
    rw [Double.mk.injEq, UInt64.toNat_inj]
  rw [compare, Int.compare_eq_eq, hbits, orderKey, orderKey]
  split <;> split <;> omega

instance : Std.TransCmp compare where
  eq_swap := (compare_swap _ _).symm
  isLE_trans := (inferInstance : Std.TransCmp (Ord.compare : Int → Int → Ordering)).isLE_trans

end Double

/-! ## Moments -/

namespace Instant

/-- Chronological order: by the second, and within a second by the fraction. -/
def Before (t u : Instant) : Prop :=
  t.seconds < u.seconds ∨ t.seconds = u.seconds ∧ t.nanos < u.nanos

theorem compare_eq_lt_iff {t u : Instant} : compare t u = .lt ↔ t.Before u := by
  rw [compare, Ordering.then_eq_lt, Int.compare_eq_lt, Int.compare_eq_eq, Nat.compare_eq_lt, Before]

theorem compare_eq_eq_iff {t u : Instant} : compare t u = .eq ↔ t = u := by
  cases t
  cases u
  rw [compare, Ordering.then_eq_eq, Int.compare_eq_eq, Nat.compare_eq_eq, Instant.mk.injEq]

instance : Std.TransCmp compare where
  eq_swap := (compare_swap _ _).symm
  isLE_trans {t u v} htu huv := by
    simp only [compare, Ordering.isLE_then_iff_and, Int.isLE_compare, Int.compare_eq_lt,
      Nat.isLE_compare] at htu huv ⊢
    omega

end Instant

namespace Selection

/-! ## Values -/

namespace Value

/-- The varieties of values; those of one variety have an order of their own. -/
inductive Variety where
  | text
  | whole
  | double
  | moment
deriving DecidableEq

/-- The variety of a value. -/
def variety : Value → Variety
  | .str _ => .text
  | .int _ => .whole
  | .double _ => .double
  | .time _ => .moment

/-- A value stands before another one of its variety. -/
def Before : Value → Value → Prop
  | .str a, .str b => a < b
  | .int m, .int n => m.toInt < n.toInt
  | .double x, .double y => x.Before y
  | .time t, .time u => t.Before u
  | _, _ => False

variable {x y z : Value}

/-- Comparing in reverse reverses the answer, whatever the varieties. -/
theorem compare_swap (x y : Value) : (x.compare y).swap = y.compare x := by
  have htexts (a b : String) : (Text.compare a b).swap = Text.compare b a :=
    Std.OrientedCmp.eq_swap.symm
  cases x <;> cases y <;> first | exact htexts _ _ | skip
  case int.int m n => exact Int.compare_swap _ _
  case int.double => exact Double.compare_swap _ _
  case double.int => exact Double.compare_swap _ _
  case double.double => exact Double.compare_swap _ _
  case time.time => exact Instant.compare_swap _ _

theorem compare_eq_lt_iff (h : x.variety = y.variety) : x.compare y = .lt ↔ x.Before y := by
  cases x <;> cases y <;> cases h
  case str => exact Text.compare_eq_lt_iff
  case int => exact Int.compare_eq_lt
  case double => exact Double.compare_eq_lt_iff
  case time => exact Instant.compare_eq_lt_iff

theorem compare_eq_eq_iff (h : x.variety = y.variety) : x.compare y = .eq ↔ x = y := by
  cases x <;> cases y <;> cases h
  case str => rw [str.injEq]; exact Text.compare_eq_eq_iff
  case int => rw [int.injEq, ← Int64.toInt_inj]; exact Int.compare_eq_eq
  case double => rw [double.injEq]; exact Double.compare_eq_eq_iff
  case time => rw [time.injEq]; exact Instant.compare_eq_eq_iff

theorem isLE_trans (hxy : x.variety = y.variety) (hyz : y.variety = z.variety)
    (hle : (x.compare y).isLE) (hle' : (y.compare z).isLE) : (x.compare z).isLE := by
  have htext : Std.TransCmp Text.compare := inferInstance
  have hwhole : Std.TransCmp (Ord.compare : Int → Int → Ordering) := inferInstance
  have hdouble : Std.TransCmp Double.compare := inferInstance
  have hmoment : Std.TransCmp Instant.compare := inferInstance
  cases x <;> cases y <;> cases hxy
  all_goals cases z <;> cases hyz
  case str => exact htext.isLE_trans hle hle'
  case int => exact hwhole.isLE_trans hle hle'
  case double => exact hdouble.isLE_trans hle hle'
  case time => exact hmoment.isLE_trans hle hle'

end Value

/-! ## One key -/

namespace SortKey

variable {key : SortKey} {v w u : Option Value}

/-- Under a key, one value of its property stands before another: in the direction of the key, and
behind all of them a missing one. -/
def Before (key : SortKey) : Option Value → Option Value → Prop
  | some x, some y => if key.ascending then x.Before y else y.Before x
  | some _, none => True
  | none, _ => False

theorem orderValues_swap (key : SortKey) (v w : Option Value) :
    (key.orderValues v w).swap = key.orderValues w v := by
  cases v <;> cases w <;> try rfl
  case some.some x y =>
    simp only [orderValues]
    split
    · exact Value.compare_swap x y
    · exact Value.compare_swap y x

theorem orderValues_eq_lt_iff (h : ∀ x ∈ v, ∀ y ∈ w, x.variety = y.variety) :
    key.orderValues v w = .lt ↔ key.Before v w := by
  cases v <;> cases w <;> try simp [orderValues, Before]
  case some.some x y =>
    have hsame := h x rfl y rfl
    split
    · exact Value.compare_eq_lt_iff hsame
    · exact Value.compare_eq_lt_iff hsame.symm

theorem orderValues_eq_eq_iff (h : ∀ x ∈ v, ∀ y ∈ w, x.variety = y.variety) :
    key.orderValues v w = .eq ↔ v = w := by
  cases v <;> cases w <;> try simp [orderValues]
  case some.some x y =>
    have hsame := h x rfl y rfl
    split
    · exact Value.compare_eq_eq_iff hsame
    · exact (Value.compare_eq_eq_iff hsame.symm).trans eq_comm

theorem isLE_trans (hvw : ∀ x ∈ v, ∀ y ∈ w, x.variety = y.variety)
    (hwu : ∀ x ∈ w, ∀ y ∈ u, x.variety = y.variety) (hle : (key.orderValues v w).isLE)
    (hle' : (key.orderValues w u).isLE) : (key.orderValues v u).isLE := by
  -- nothing stands behind a missing value, and a missing one only before another missing one
  cases v with
  | none =>
    cases w with
    | none => exact hle'
    | some y => exact absurd hle (by simp [orderValues])
  | some x =>
    cases u with
    | none => rfl
    | some z =>
      cases w with
      | none => exact absurd hle' (by simp [orderValues])
      | some y =>
        have hxy := hvw x rfl y rfl
        have hyz := hwu y rfl z rfl
        simp only [orderValues] at hle hle' ⊢
        split at hle
        case isTrue hup =>
          rw [if_pos hup] at hle' ⊢
          exact Value.isLE_trans hxy hyz hle hle'
        case isFalse hdown =>
          rw [if_neg hdown] at hle' ⊢
          exact Value.isLE_trans hyz.symm hxy.symm hle' hle

end SortKey

/-! ## Items under keys -/

variable {α : Type} [HasProperties α] {key : SortKey} {keys : List SortKey} {s : Set α} {a b : α}

/-- The values that a property has on some items are of one variety. -/
def OneVariety (property : Property) (s : Set α) : Prop :=
  ∀ a ∈ s, ∀ b ∈ s, ∀ x ∈ property? a property, ∀ y ∈ property? b property, x.variety = y.variety

/-- Two items agree on the property of every key. -/
def Tied (keys : List SortKey) (a b : α) : Prop :=
  ∀ key ∈ keys, property? a key.property = property? b key.property

instance (keys : List SortKey) (a b : α) : Decidable (Tied keys a b) :=
  inferInstanceAs (Decidable (∀ key ∈ keys, _))

/-- Some key has one item before another, and they agree on the keys in front of it. -/
def Precedes (keys : List SortKey) (a b : α) : Prop :=
  ∃ earlier key later, keys = earlier ++ key :: later ∧ Tied earlier a b ∧
    key.Before (property? a key.property) (property? b key.property)

theorem tied_cons_iff :
    Tied (key :: keys) a b ↔ property? a key.property = property? b key.property ∧ Tied keys a b :=
  List.forall_mem_cons

theorem precedes_cons_iff :
    Precedes (key :: keys) a b ↔
      key.Before (property? a key.property) (property? b key.property) ∨
        property? a key.property = property? b key.property ∧ Precedes keys a b := by
  constructor
  · -- the decisive key is the first one or one of the rest
    rintro ⟨earlier, decisive, later, hkeys, htied, hbefore⟩
    cases earlier with
    | nil =>
      cases hkeys
      exact Or.inl hbefore
    | cons first earlier =>
      cases hkeys
      obtain ⟨hfirst, htied⟩ := tied_cons_iff.1 htied
      exact Or.inr ⟨hfirst, earlier, decisive, later, rfl, htied, hbefore⟩
  · rintro (hbefore | ⟨hfirst, earlier, decisive, later, rfl, htied, hbefore⟩)
    · exact ⟨[], key, keys, rfl, List.forall_mem_nil _, hbefore⟩
    · exact ⟨key :: earlier, decisive, later, rfl, tied_cons_iff.2 ⟨hfirst, htied⟩, hbefore⟩

/-- Comparing items in reverse reverses the answer. -/
theorem orderBy_swap (keys : List SortKey) (a b : α) :
    (orderBy keys a b).swap = orderBy keys b a := by
  induction keys with
  | nil => rfl
  | cons key rest ih =>
    rw [orderBy, orderBy, Ordering.swap_then, ih, SortKey.order, SortKey.orderValues_swap,
      SortKey.order]

theorem orderBy_eq_eq_iff (hvar : ∀ key ∈ keys, OneVariety key.property s) (ha : a ∈ s)
    (hb : b ∈ s) : orderBy keys a b = .eq ↔ Tied keys a b := by
  induction keys with
  | nil => exact iff_of_true rfl (List.forall_mem_nil _)
  | cons key rest ih =>
    obtain ⟨hkey, hrest⟩ := List.forall_mem_cons.1 hvar
    rw [orderBy, Ordering.then_eq_eq, SortKey.order,
      SortKey.orderValues_eq_eq_iff (hkey a ha b hb), ih hrest, tied_cons_iff]

/-- Comparing decides what stands before what. -/
theorem orderBy_eq_lt_iff (hvar : ∀ key ∈ keys, OneVariety key.property s) (ha : a ∈ s)
    (hb : b ∈ s) : orderBy keys a b = .lt ↔ Precedes keys a b := by
  induction keys with
  | nil => simp [orderBy, Precedes]
  | cons key rest ih =>
    obtain ⟨hkey, hrest⟩ := List.forall_mem_cons.1 hvar
    rw [orderBy, Ordering.then_eq_lt, SortKey.order,
      SortKey.orderValues_eq_lt_iff (hkey a ha b hb),
      SortKey.orderValues_eq_eq_iff (hkey a ha b hb), ih hrest, precedes_cons_iff]

/-- The order under sort keys is a total preorder on items on which each key finds values of one
variety only. -/
theorem isPreorderOn_orderBy (hvar : ∀ key ∈ keys, OneVariety key.property s) :
    IsPreorderOn (orderBy keys) s := by
  -- ties on the first key fall through to the order under the rest
  induction keys with
  | nil => exact ⟨fun _ _ _ _ => rfl, fun _ _ _ _ _ _ _ _ => rfl⟩
  | cons key rest ih =>
    obtain ⟨hkey, hrest⟩ := List.forall_mem_cons.1 hvar
    have hfirst : IsPreorderOn key.order s := {
      swap := fun a _ b _ => key.orderValues_swap _ _
      trans := fun a ha b hb c hc =>
        SortKey.isLE_trans (hkey a ha b hb) (hkey b hb c hc) }
    exact hfirst.lex (ih hrest)

end Selection

end FleetDashboard
