import FleetDashboard.Proofs.Number.Whole
import FleetDashboard.Proofs.Selection.Order

/-!
# Where comparing values is not consistent

Any two values can be compared, and comparing in reverse reverses the answer. But three values may
run in a circle, each at most the next one and the last one less than the first. There are two
reasons. Whole numbers meet a double as doubles, so two of them that round to it are both equal to
it while one is larger than the other. And values on different scales are compared by their texts,
which need not agree with the order on a scale: `9` is less than `10`, and the text `5` stands
between the texts `10` and `9`.

* `Value.OnOneScale`, `Value.Smaller`: the scales of numbers and of moments.
* `Value.RunsInCircle`: the ways in which three values run in a circle.
* `Value.compare_orders_up_to_circles`: these are the only ones; all other triples are in order.
-/

namespace FleetDashboard.Selection.Value

variable {x y z : Value}

/-! ## Scales -/

/-- The scales on which values are compared other than by their texts. -/
inductive Scale where
  | size
  | chronology
deriving DecidableEq

/-- The scale of a value; a text has none. -/
def scale? : Value → Option Scale
  | .str _ => none
  | .int _ => some .size
  | .double _ => some .size
  | .time _ => some .chronology

/-- Both values are numbers, or both are moments. -/
def OnOneScale (x y : Value) : Prop :=
  x.scale?.isSome ∧ x.scale? = y.scale?

instance (x y : Value) : Decidable (OnOneScale x y) :=
  inferInstanceAs (Decidable (_ ∧ _))

/-- A value is smaller than another one on their scale. A whole number stands beside a double as the
nearest double. -/
def Smaller : Value → Value → Prop
  | .int m, .int n => m.toInt < n.toInt
  | .int m, .double v => (Double.ofInt64 m).Before v
  | .double u, .int n => u.Before (Double.ofInt64 n)
  | .double u, .double v => u.Before v
  | .time t, .time u => t.Before u
  | _, _ => False

theorem OnOneScale.symm (h : OnOneScale x y) : OnOneScale y x :=
  ⟨h.2 ▸ h.1, h.2.symm⟩

theorem OnOneScale.trans (hxy : OnOneScale x y) (hyz : OnOneScale y z) : OnOneScale x z :=
  ⟨hxy.1, hxy.2.trans hyz.2⟩

/-! ## Comparing on a scale and by texts -/

theorem compare_eq_lt_iff_smaller (h : OnOneScale x y) : x.compare y = .lt ↔ Smaller x y := by
  obtain ⟨hsome, hscale⟩ := h
  cases x <;> cases y <;> cases hscale
  case str.str => cases hsome
  case int.int => exact Int.compare_eq_lt
  case int.double => exact Double.compare_eq_lt_iff
  case double.int => exact Double.compare_eq_lt_iff
  case double.double => exact Double.compare_eq_lt_iff
  case time.time => exact Instant.compare_eq_lt_iff

theorem compare_of_not_onOneScale (h : ¬ OnOneScale x y) :
    x.compare y = Text.compare x.text y.text := by
  cases x <;> cases y <;> first | exact absurd ⟨rfl, rfl⟩ h | rfl

/-- A value is at most another one unless the other one is less. -/
theorem isLE_compare_iff : (x.compare y).isLE ↔ y.compare x ≠ .lt := by
  rw [← compare_swap x y]
  cases x.compare y <;> decide

theorem isLE_compare_iff_not_smaller (h : OnOneScale x y) :
    (x.compare y).isLE ↔ ¬ Smaller y x := by
  rw [isLE_compare_iff, Ne, compare_eq_lt_iff_smaller h.symm]

theorem isLE_compare_iff_text_le (h : ¬ OnOneScale x y) :
    (x.compare y).isLE ↔ x.text ≤ y.text := by
  rw [isLE_compare_iff, Ne, compare_of_not_onOneScale fun hyx => h hyx.symm,
    Text.compare_eq_lt_iff, String.not_lt]

/-! ## Circles -/

/-- Three values run in a circle: the first is at most the second, the second at most the third, and
the third is less than the first. -/
inductive RunsInCircle : Value → Value → Value → Prop
  /-- A double stands between two whole numbers that both round to it. -/
  | rounded {m n : Int64} {u : Double} (hlt : n.toInt < m.toInt) (hm : Double.ofInt64 m = u)
      (hn : Double.ofInt64 n = u) : RunsInCircle (.int m) (.double u) (.int n)
  /-- The first two are in order on their scale, but the text of the third is between theirs the
  other way around. -/
  | closing {x y z : Value} (hxy : OnOneScale x y) (hother : ¬ OnOneScale y z)
      (hscale : ¬ Smaller y x) (hyz : y.text ≤ z.text) (hzx : z.text < x.text) :
      RunsInCircle x y z
  /-- The last two are in order on their scale, but the text of the first is between theirs the
  other way around. -/
  | opening {x y z : Value} (hyz : OnOneScale y z) (hother : ¬ OnOneScale x y)
      (hscale : ¬ Smaller z y) (hxy : x.text ≤ y.text) (hzx : z.text < x.text) :
      RunsInCircle x y z
  /-- The last is smaller than the first on their scale, but the text of the second is between
  theirs the other way around. -/
  | between {x y z : Value} (hzx : OnOneScale z x) (hother : ¬ OnOneScale x y)
      (hscale : Smaller z x) (hxy : x.text ≤ y.text) (hyz : y.text ≤ z.text) :
      RunsInCircle x y z

example : RunsInCircle (.int 9) (.int 10) (.str "5") :=
  .closing (by decide) (by decide) (show ¬ _ < _ by decide) (by decide) (by decide)

/-- On one scale only rounding makes values run in a circle. -/
theorem isLE_trans_of_onOneScale (hxy : OnOneScale x y) (hyz : OnOneScale y z)
    (hle : (x.compare y).isLE) (hle' : (y.compare z).isLE) :
    (x.compare z).isLE ∨ RunsInCircle x y z := by
  obtain ⟨hsome, hxy⟩ := hxy
  obtain ⟨-, hyz⟩ := hyz
  cases x <;> cases y <;> cases z <;> first | (cases hxy; done) | (cases hyz; done) | skip
  case str.str.str => cases hsome
  case time.time.time t u v =>
    have hfirst : (t.compare u).isLE := hle
    have hlast : (u.compare v).isLE := hle'
    have hboth : (t.compare v).isLE := Std.TransCmp.isLE_trans hfirst hlast
    exact Or.inl hboth
  -- a number that is not compared as a double enters by the double it rounds to
  all_goals simp only [compare, Double.compare, Int.isLE_compare] at hle hle' ⊢
  case int.int.int => exact Or.inl (hle.trans hle')
  case int.int.double => exact Or.inl ((Double.orderKey_ofInt64_mono hle).trans hle')
  case double.int.int => exact Or.inl (hle.trans (Double.orderKey_ofInt64_mono hle'))
  case int.double.double => exact Or.inl (hle.trans hle')
  case double.int.double => exact Or.inl (hle.trans hle')
  case double.double.int => exact Or.inl (hle.trans hle')
  case double.double.double => exact Or.inl (hle.trans hle')
  case int.double.int m u n =>
    refine (le_or_gt m.toInt n.toInt).imp_right fun hlt => ?_
    -- rounding keeps the order of the two, and the double is between them the other way around
    have hmono := Double.orderKey_ofInt64_mono hlt.le
    exact .rounded hlt (Double.orderKey_inj.1 (by omega)) (Double.orderKey_inj.1 (by omega))

/-- Values that run in a circle are not in order. -/
theorem RunsInCircle.compare (h : RunsInCircle x y z) :
    (x.compare y).isLE ∧ (y.compare z).isLE ∧ ¬ (x.compare z).isLE := by
  cases h with
  | rounded hlt hm hn =>
    simp only [Value.compare, Double.compare, hm, hn, Int.isLE_compare]
    omega
  | closing hxy hother hscale hyz hzx =>
    have hxz : ¬ OnOneScale x z := fun hxz => hother (hxy.symm.trans hxz)
    rw [isLE_compare_iff_not_smaller hxy, isLE_compare_iff_text_le hother,
      isLE_compare_iff_text_le hxz, String.not_le]
    exact ⟨hscale, hyz, hzx⟩
  | opening hyz hother hscale hxy hzx =>
    have hxz : ¬ OnOneScale x z := fun hxz => hother (hxz.trans hyz.symm)
    rw [isLE_compare_iff_not_smaller hyz, isLE_compare_iff_text_le hother,
      isLE_compare_iff_text_le hxz, String.not_le]
    exact ⟨hxy, hscale, hzx⟩
  | between hzx hother hscale hxy hyz =>
    have hyz' : ¬ OnOneScale y z := fun hyz => hother (hzx.symm.trans hyz.symm)
    rw [isLE_compare_iff_text_le hother, isLE_compare_iff_text_le hyz',
      isLE_compare_iff_not_smaller hzx.symm, not_not]
    exact ⟨hxy, hyz, hscale⟩

/-- Values that are not in order run in a circle: both neighbours are compared on a scale, or one
pair of them, or none. -/
theorem runsInCircle_of_compare (hle : (x.compare y).isLE) (hle' : (y.compare z).isLE)
    (hgt : ¬ (x.compare z).isLE) : RunsInCircle x y z := by
  by_cases hxy : OnOneScale x y
  · by_cases hyz : OnOneScale y z
    · exact (isLE_trans_of_onOneScale hxy hyz hle hle').resolve_left hgt
    · have hxz : ¬ OnOneScale x z := fun hxz => hyz (hxy.symm.trans hxz)
      rw [isLE_compare_iff_not_smaller hxy] at hle
      rw [isLE_compare_iff_text_le hyz] at hle'
      rw [isLE_compare_iff_text_le hxz, String.not_le] at hgt
      exact .closing hxy hyz hle hle' hgt
  · rw [isLE_compare_iff_text_le hxy] at hle
    by_cases hyz : OnOneScale y z
    · have hxz : ¬ OnOneScale x z := fun hxz => hxy (hxz.trans hyz.symm)
      rw [isLE_compare_iff_not_smaller hyz] at hle'
      rw [isLE_compare_iff_text_le hxz, String.not_le] at hgt
      exact .opening hyz hxy hle' hle hgt
    · rw [isLE_compare_iff_text_le hyz] at hle'
      by_cases hxz : OnOneScale x z
      · rw [isLE_compare_iff_not_smaller hxz, not_not] at hgt
        exact .between hxz.symm hxy hgt hle hle'
      · -- texts alone are in order
        exact absurd ((isLE_compare_iff_text_le hxz).2 (hle.trans hle')) hgt

/-- Comparing in reverse reverses the answer, and any three values are in order unless they run in a
circle. -/
theorem compare_orders_up_to_circles (x y z : Value) :
    y.compare x = (x.compare y).swap ∧
      (((x.compare y).isLE → (y.compare z).isLE → (x.compare z).isLE) ↔ ¬ RunsInCircle x y z) := by
  refine ⟨(compare_swap x y).symm, ?_, ?_⟩
  · intro htrans hcircle
    obtain ⟨hle, hle', hgt⟩ := hcircle.compare
    exact hgt (htrans hle hle')
  · intro hcircle hle hle'
    by_contra hgt
    exact hcircle (runsInCircle_of_compare hle hle' hgt)

/-- The whole number 2⁵³ + 1 is larger than 2⁵³, but the double 2⁵³ is equal to both. -/
theorem compare_not_transitive :
    ¬ ∀ x y z : Value, (x.compare y).isLE → (y.compare z).isLE → (x.compare z).isLE := by
  intro htrans
  have hround : ((Value.int 9007199254740993).compare (.double ⟨0x4340000000000000⟩)).isLE := by
    decide
  have hexact : ((Value.double ⟨0x4340000000000000⟩).compare (.int 9007199254740992)).isLE := by
    decide
  have hlarger : ¬ ((Value.int 9007199254740993).compare (.int 9007199254740992)).isLE := by decide
  exact hlarger (htrans _ _ _ hround hexact)

end FleetDashboard.Selection.Value
