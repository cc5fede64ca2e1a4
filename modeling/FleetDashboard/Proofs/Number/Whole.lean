import Mathlib.Data.Nat.Log
import Mathlib.Order.Basic
import FleetDashboard.Proofs.Selection.Order

/-!
# Whole numbers as doubles

Rounding a whole number to a double never turns an order around, but it may make two whole numbers
one: beyond 53 binary digits the last ones are lost.

* `Double.wholeBits_mono`: a larger whole number has larger bits, or the same ones.
* `Double.orderKey_ofInt64_mono`: rounding keeps the order of 64-bit integers.
-/

namespace FleetDashboard.Double

variable {m n d place : Nat}

/-! ## The significand -/

/-- Rounding a quotient goes up by at most one. -/
theorem nearestQuotient_le_succ (n d : Nat) : nearestQuotient n d ≤ n / d + 1 := by
  rw [nearestQuotient]
  split <;> omega

theorem div_le_nearestQuotient (n d : Nat) : n / d ≤ nearestQuotient n d := by
  rw [nearestQuotient]
  split <;> omega

theorem nearestQuotient_mono (h : m ≤ n) : nearestQuotient m d ≤ nearestQuotient n d := by
  rcases (Nat.div_le_div_right h : m / d ≤ n / d).lt_or_eq with hlt | heq
  · exact (nearestQuotient_le_succ m d).trans (hlt.trans_le (div_le_nearestQuotient n d))
  · -- with one quotient, the larger remainder is rounded up if the smaller one is
    have hrem : m % d ≤ n % d := by
      have hm := Nat.div_add_mod m d
      have hn := Nat.div_add_mod n d
      rw [heq] at hm
      omega
    simp only [nearestQuotient, heq, Bool.or_eq_true, Bool.and_eq_true, decide_eq_true_eq,
      beq_iff_eq]
    split <;> split <;> omega

theorem significand_mono (h : m ≤ n) : significand place m ≤ significand place n := by
  rw [significand, significand]
  split
  · exact Nat.mul_le_mul_right _ h
  · exact nearestQuotient_mono h

/-- The significand of a whole number has 53 digits, or is the power of two behind them. -/
theorem significand_mem_Icc (hn : n ≠ 0) :
    significand n.log2 n ∈ Set.Icc 4503599627370496 9007199254740992 := by
  have hlow : 2 ^ n.log2 ≤ n := Nat.log2_self_le hn
  have hhigh : n < 2 ^ (n.log2 + 1) := Nat.lt_log2_self
  simp only [significand, Nat.pow_eq]
  split
  case isTrue hplace =>
    have hsplit : 2 ^ n.log2 * 2 ^ (52 - n.log2) = 4503599627370496 := by
      rw [← Nat.pow_add, Nat.add_sub_cancel' hplace]
    have hsplit' : 2 ^ (n.log2 + 1) * 2 ^ (52 - n.log2) = 9007199254740992 := by
      rw [Nat.pow_succ, Nat.mul_right_comm, hsplit]
    exact ⟨hsplit ▸ Nat.mul_le_mul_right _ hlow, hsplit' ▸ Nat.mul_le_mul_right _ hhigh.le⟩
  case isFalse hplace =>
    have hsplit : 4503599627370496 * 2 ^ (n.log2 - 52) = 2 ^ n.log2 := by
      rw [show 4503599627370496 = 2 ^ 52 from rfl, ← Nat.pow_add,
        Nat.add_sub_cancel' (Nat.le_of_not_le hplace)]
    have hsplit' : 9007199254740992 * 2 ^ (n.log2 - 52) = 2 ^ (n.log2 + 1) := by
      rw [Nat.pow_succ, ← hsplit]
      omega
    have hpos : 0 < 2 ^ (n.log2 - 52) := Nat.two_pow_pos _
    have hquot : 4503599627370496 ≤ n / 2 ^ (n.log2 - 52) :=
      (Nat.le_div_iff_mul_le hpos).2 (hsplit ▸ hlow)
    have hquot' : n / 2 ^ (n.log2 - 52) < 9007199254740992 :=
      (Nat.div_lt_iff_lt_mul hpos).2 (hsplit' ▸ hhigh)
    exact ⟨hquot.trans (div_le_nearestQuotient _ _), (nearestQuotient_le_succ _ _).trans hquot'⟩

/-! ## The bits -/

/-- A larger whole number has larger bits, or the same ones. -/
theorem wholeBits_mono (h : m ≤ n) : wholeBits m ≤ wholeBits n := by
  rcases eq_or_ne m 0 with rfl | hm
  · exact Nat.zero_le _
  have hn : n ≠ 0 := by omega
  rw [wholeBits, wholeBits, if_neg hm, if_neg hn]
  have hplaces : m.log2 ≤ n.log2 := by
    rw [Nat.log2_eq_log_two, Nat.log2_eq_log_two]
    exact Nat.log_mono_right h
  rcases hplaces.lt_or_eq with hlt | heq
  · -- one more binary digit outweighs all of the significand
    have hsigM := (significand_mem_Icc hm).2
    have hsigN := (significand_mem_Icc hn).1
    omega
  · rw [heq]
    exact Nat.add_le_add_left (significand_mono h) _

theorem wholeBits_natAbs_lt (n : Int64) : wholeBits n.toInt.natAbs < 9223372036854775808 := by
  have hlow := n.le_toInt
  have hhigh := n.toInt_lt
  have hlargest : wholeBits 9223372036854775808 < 9223372036854775808 := by decide
  exact (wholeBits_mono (by omega)).trans_lt hlargest

/-! ## The order -/

/-- The position of a rounded integer in the total order: its bits, counted down for a negative
one. -/
theorem orderKey_ofInt64 (n : Int64) :
    (ofInt64 n).orderKey =
      if n.toInt < 0 then -1 - (wholeBits n.toInt.natAbs : Int) else wholeBits n.toInt.natAbs := by
  have hbits := wholeBits_natAbs_lt n
  rw [orderKey, ofInt64]
  split <;> simp only [UInt64.toNat_ofNat'] <;> split <;> omega

/-- Rounding keeps the order of 64-bit integers. -/
theorem orderKey_ofInt64_mono {m n : Int64} (h : m.toInt ≤ n.toInt) :
    (ofInt64 m).orderKey ≤ (ofInt64 n).orderKey := by
  rw [orderKey_ofInt64, orderKey_ofInt64]
  by_cases hm : m.toInt < 0
  · by_cases hn : n.toInt < 0
    · have hbits : wholeBits n.toInt.natAbs ≤ wholeBits m.toInt.natAbs :=
        wholeBits_mono (by omega)
      rw [if_pos hm, if_pos hn]
      omega
    · rw [if_pos hm, if_neg hn]
      omega
  · have hn : ¬ n.toInt < 0 := by omega
    have hbits : wholeBits m.toInt.natAbs ≤ wholeBits n.toInt.natAbs := wholeBits_mono (by omega)
    rw [if_neg hm, if_neg hn]
    omega

theorem orderKey_inj {x y : Double} : x.orderKey = y.orderKey ↔ x = y := by
  rw [← compare_eq_eq_iff, compare, Int.compare_eq_eq]

end FleetDashboard.Double
