import Mathlib.Algebra.Order.Ring.Nat
import FleetDashboard.Number.Double

/-!
# Sums of doubles from zero on

A sum that is counted up from zero is never minus zero, whatever is added: minus zero is only the
sum of minus zero and itself, and no sum of two numbers is so small that it is rounded to nothing.
So adding zero to such a sum changes nothing.

The facts about single numbers are facts about the machine's operations, which take a number apart
into its sign, its mantissa and its exponent, calculate, round to 53 binary digits and put it
together again.

* `Double.pack_unpack`: a number is taken apart and put together again unchanged.
* `Double.round_isStorable`: rounding a sum never leaves nothing of it.
* `Double.IsTally`: what a sum that is counted up from zero can be.
* `Double.IsTally.add`, `Double.IsTally.add_zero`: adding to it, and adding nothing to it.
-/

namespace FleetDashboard.Double

open Float.Model Float.Model.UnpackedFloat

variable {m : Nat} {e : Int} {s : Sign}

/-! ## Rounding -/

theorem targetExponent_eq (t : Int) : Format.binary64.targetExponent t = max (t - 53) (-1074) :=
  rfl

theorem mantissa_shiftRight (em : ExtendedMantissa) (k : Nat) :
    (em >>> k).mantissa = em.mantissa / 2 ^ k := by
  induction k with
  | zero => exact (Nat.div_one _).symm
  | succ k ih =>
    calc (em >>> (k + 1)).mantissa = (em >>> k).mantissa / 2 := rfl
      _ = em.mantissa / 2 ^ (k + 1) := by rw [ih, Nat.div_div_eq_div_mul, Nat.pow_succ]

/-- Rounding never goes below the digits that are kept. -/
theorem mantissa_le_roundedMantissa (em : ExtendedMantissa) : em.mantissa ≤ em.roundedMantissa := by
  obtain ⟨m, roundBit, stickyBit⟩ := em
  cases roundBit <;> cases stickyBit
  case true.false => exact Nat.le_add_right m (m % 2)
  case true.true => exact Nat.le_succ m
  all_goals exact Nat.le_refl m

/-- A number is cut to 53 digits, and something of it is left. -/
theorem cut_bounds (hm : 0 < m) (he : -1074 ≤ e) :
    0 < (shiftToTargetExponent .binary64 m e .exact).1.mantissa ∧
      (shiftToTargetExponent .binary64 m e .exact).1.mantissa < 2 ^ 53 ∧
      -1074 ≤ (shiftToTargetExponent .binary64 m e .exact).2 := by
  -- an exponent that is not too small leaves all digits but 53 to cut
  have hcut : (Format.binary64.targetExponent (totalExponent m e) - e).toNat = m.log2 - 52 := by
    rw [targetExponent_eq, totalExponent]
    omega
  have hlow : 2 ^ m.log2 ≤ m := Nat.log2_self_le hm.ne'
  have hhigh : m < 2 ^ (m.log2 + 1) := Nat.lt_log2_self
  have hle : 2 ^ (m.log2 - 52) ≤ 2 ^ m.log2 := Nat.pow_le_pow_right (by decide) (Nat.sub_le _ _)
  have hlt : 2 ^ (m.log2 + 1) ≤ 2 ^ 53 * 2 ^ (m.log2 - 52) := by
    rw [← Nat.pow_add]
    exact Nat.pow_le_pow_right (by decide) (by omega)
  rw [shiftToTargetExponent, shiftToExponent, hcut, mantissa_shiftRight]
  refine ⟨Nat.div_pos (hle.trans hlow) (Nat.two_pow_pos _), ?_, ?_⟩
  · exact (Nat.div_lt_iff_lt_mul (Nat.two_pow_pos _)).2 (hhigh.trans_le hlt)
  · exact he.trans (Int.le_add_of_nonneg_right (Int.natCast_nonneg _))

/-- A finite number that is stored as such: with a mantissa of at most 53 digits and an exponent
that is not too small. -/
def IsStorable (u : UnpackedFloat) : Prop :=
  ∃ s m e hm, u = .finite s m e hm ∧ m < 2 ^ 53 ∧ -1074 ≤ e

/-- Rounding a number never leaves nothing of it. -/
theorem round_isStorable (hm : 0 < m) (he : -1074 ≤ e) :
    IsStorable (UnpackedFloat.round .binary64 s m e) := by
  have hpos : 0 < m <<< (e - Format.binary64.targetExponent (totalExponent m e)).toNat := by
    rw [Nat.shiftLeft_eq]
    exact Nat.mul_pos hm (Nat.two_pow_pos _)
  have hexp : -1074 ≤ e - (e - Format.binary64.targetExponent (totalExponent m e)).toNat := by
    rw [targetExponent_eq]
    omega
  obtain ⟨hfirst, -, hexp⟩ := cut_bounds hpos hexp
  -- rounding may have added a digit, so the number is cut once more
  obtain ⟨hsecond, hlt, hexp⟩ :=
    cut_bounds (hfirst.trans_le (mantissa_le_roundedMantissa _)) hexp
  exact ⟨s, _, _, hsecond, dif_neg hsecond.ne', hlt, hexp⟩

/-! ## Taking apart and putting together -/

variable {b : BitVec Format.binary64.numBits}

/-- The bits of a number are its three fields. -/
theorem packComponents_fields (b : BitVec Format.binary64.numBits) :
    packComponents .binary64 (.ofBitVec (unpackSign b)) (unpackExponent b) (unpackMantissa b) =
      b := by
  have hsign : (Sign.ofBitVec (unpackSign b)).toBitVec = unpackSign b := by
    rcases BitVec.eq_zero_or_eq_one (unpackSign b) with h | h <;> rw [h] <;> rfl
  rw [packComponents, hsign]
  -- the three fields lie next to each other
  change b.extractLsb' 63 1 ++ b.extractLsb' 52 11 ++ b.extractLsb' 0 52 = b
  rw [BitVec.append_assoc, BitVec.extractLsb'_append_extractLsb'_eq_extractLsb' (by decide),
    BitVec.extractLsb'_append_extractLsb'_eq_extractLsb' (by decide)]
  exact BitVec.extractLsb'_eq_self

theorem pack_finite (hm : 0 < m) :
    UnpackedFloat.pack .binary64 (.finite s m e hm) =
      if 2 ^ 11 ≤ (e + 1075).toNat + 1 then packedInfinity .binary64 s
      else if m.log2 + 1 = 53 then
        packComponents .binary64 s (BitVec.ofNat 11 (e + 1075).toNat) (BitVec.ofNat 52 m)
      else packComponents .binary64 s 0#11 (BitVec.ofNat 52 m) := by
  have hbias : e + 1075 = e + (1023 : Nat) + (52 : Nat) := by omega
  rw [hbias]
  rfl

theorem pack_subnormal (mantissa : BitVec 52) (hpos : 0 < mantissa.toNat) :
    UnpackedFloat.pack .binary64 (.finite s mantissa.toNat (-1074) hpos) =
      packComponents .binary64 s 0#11 mantissa := by
  have hlog : mantissa.toNat.log2 < 52 := (Nat.log2_lt hpos.ne').2 mantissa.isLt
  rw [pack_finite, if_neg (by decide), if_neg (by omega), BitVec.ofNat_toNat, BitVec.setWidth_eq]

theorem pack_normal (exponent : BitVec 11) (mantissa : BitVec 52) (hones : exponent ≠ -1#11)
    (hpos : 0 < (1#1 ++ mantissa).toNat) :
    UnpackedFloat.pack .binary64
        (.finite s (1#1 ++ mantissa).toNat (exponent.toNat - 1075) hpos) =
      packComponents .binary64 s exponent mantissa := by
  have hleading : (1#1 ++ mantissa).toNat = 2 ^ 52 + mantissa.toNat := by
    rw [BitVec.toNat_append, ← Nat.shiftLeft_add_eq_or_of_lt mantissa.isLt]
    rfl
  have hlog : (1#1 ++ mantissa).toNat.log2 = 52 :=
    (Nat.log2_eq_iff hpos.ne').2 (by omega)
  have hexp : ((exponent.toNat : Int) - 1075 + 1075).toNat = exponent.toNat := by omega
  have hlt : exponent.toNat ≠ 2047 := fun h => hones (BitVec.eq_of_toNat_eq h)
  -- the leading digit is not stored
  have hstored : BitVec.ofNat 52 (1#1 ++ mantissa).toNat = mantissa := by
    apply BitVec.eq_of_toNat_eq
    rw [BitVec.toNat_ofNat, hleading, Nat.add_mod_left, Nat.mod_eq_of_lt mantissa.isLt]
  rw [pack_finite, hexp, if_neg (by omega), hlog, if_pos rfl, hstored, BitVec.ofNat_toNat,
    BitVec.setWidth_eq]

/-- What the fields of a number make of it. The two outermost exponents have a meaning of their own;
with any other the leading digit of the mantissa is not stored. -/
theorem unpack_cases (b : BitVec Format.binary64.numBits) :
    (unpackExponent b = -1#11 ∧ unpackMantissa b = 0#52 ∧
        UnpackedFloat.unpack .binary64 b = .infinity (.ofBitVec (unpackSign b))) ∨
      (unpackExponent b = -1#11 ∧ unpackMantissa b ≠ 0#52 ∧
        UnpackedFloat.unpack .binary64 b = .notANumber) ∨
      (unpackExponent b = 0#11 ∧ unpackMantissa b = 0#52 ∧
        UnpackedFloat.unpack .binary64 b = .zero (.ofBitVec (unpackSign b))) ∨
      (unpackExponent b = 0#11 ∧ ∃ hpos, UnpackedFloat.unpack .binary64 b =
        .finite (.ofBitVec (unpackSign b)) (unpackMantissa b).toNat (-1074) hpos) ∨
      (unpackExponent b ≠ -1#11 ∧ unpackExponent b ≠ 0#11 ∧
        ∃ hpos, UnpackedFloat.unpack .binary64 b =
          .finite (.ofBitVec (unpackSign b)) (1#1 ++ unpackMantissa b).toNat
            ((unpackExponent b).toNat - 1075) hpos) := by
  by_cases hones : unpackExponent b = -1#11
  · by_cases hzero : unpackMantissa b = 0#52
    · exact .inl ⟨hones, hzero, (if_pos hones).trans (if_pos hzero)⟩
    · exact .inr (.inl ⟨hones, hzero, (if_pos hones).trans (if_neg hzero)⟩)
  · by_cases hnone : unpackExponent b = 0#11
    · by_cases hzero : unpackMantissa b = 0#52
      · exact .inr (.inr (.inl
          ⟨hnone, hzero, (if_neg hones).trans ((if_pos hnone).trans (dif_pos hzero))⟩))
      · have hpos : 0 < (unpackMantissa b).toNat :=
          Nat.pos_of_ne_zero fun h => hzero (BitVec.eq_of_toNat_eq h)
        -- without a leading digit the exponent is that of the smallest numbers that have one
        have hexp : ((unpackExponent b).toNat : Int) - 1075 + 1 = -1074 := by
          rw [hnone]
          rfl
        refine .inr (.inr (.inr (.inl ⟨hnone, hpos, ?_⟩)))
        calc UnpackedFloat.unpack .binary64 b
          _ = _ := (if_neg hones).trans ((if_pos hnone).trans (dif_neg hzero))
          _ = _ := (UnpackedFloat.finite.injEq ..).mpr ⟨rfl, rfl, hexp⟩
    · exact .inr (.inr (.inr (.inr ⟨hones, hnone, _, (if_neg hones).trans (if_neg hnone)⟩)))

/-- A number is taken apart and put together again unchanged. -/
theorem pack_unpack (hvalid : Format.binary64.Valid b) :
    UnpackedFloat.pack .binary64 (UnpackedFloat.unpack .binary64 b) = b := by
  have hfields := packComponents_fields b
  obtain ⟨hones, hzero, hunpack⟩ | ⟨hones, hnan, hunpack⟩ | ⟨hnone, hzero, hunpack⟩ |
    ⟨hnone, hpos, hunpack⟩ | ⟨hones, -, hpos, hunpack⟩ := unpack_cases b <;> rw [hunpack]
  · rw [hones, hzero] at hfields
    exact hfields
  · exact (hvalid.eq_packedNaN hones hnan).symm
  · rw [hnone, hzero] at hfields
    exact hfields
  · rw [hnone] at hfields
    exact (pack_subnormal (unpackMantissa b) hpos).trans hfields
  · exact (pack_normal (unpackExponent b) (unpackMantissa b) hones hpos).trans hfields

/-- The exponent of a number that is taken apart is not too small. -/
theorem le_exponent_of_unpack {hm : 0 < m}
    (h : UnpackedFloat.unpack .binary64 b = .finite s m e hm) : -1074 ≤ e := by
  obtain ⟨-, -, hunpack⟩ | ⟨-, -, hunpack⟩ | ⟨-, -, hunpack⟩ | ⟨-, _, hunpack⟩ |
    ⟨-, hnone, _, hunpack⟩ := unpack_cases b <;> rw [hunpack] at h <;> cases h
  · exact Int.le_refl _
  · have hpos : (unpackExponent b).toNat ≠ 0 := fun hzero => hnone (BitVec.eq_of_toNat_eq hzero)
    omega

/-- Only a zero has neither exponent nor mantissa. -/
theorem fields_of_unpack_eq_zero (h : UnpackedFloat.unpack .binary64 b = .zero s) :
    unpackExponent b = 0#11 ∧ unpackMantissa b = 0#52 := by
  obtain ⟨-, -, hunpack⟩ | ⟨-, -, hunpack⟩ | ⟨hnone, hzero, -⟩ | ⟨-, _, hunpack⟩ |
    ⟨-, -, _, hunpack⟩ := unpack_cases b
  case inr.inr.inl => exact ⟨hnone, hzero⟩
  all_goals
    rw [hunpack] at h
    cases h

/-- A finite number does not become a zero by being put together. -/
theorem IsStorable.unpack_pack_ne_zero {u : UnpackedFloat} (h : IsStorable u) :
    UnpackedFloat.unpack .binary64 (UnpackedFloat.pack .binary64 u) ≠ .zero s := by
  obtain ⟨sign, m, e, hm, rfl, hlt, he⟩ := h
  intro hzero
  have hfields := fields_of_unpack_eq_zero hzero
  rw [pack_finite] at hfields
  split at hfields
  · rw [packedInfinity, unpackExponent_packComponents] at hfields
    exact absurd hfields.1 (by decide)
  · split at hfields
    · -- the exponent is stored with an offset that leaves no room for zero
      rw [unpackExponent_packComponents] at hfields
      have hexponent : (e + 1075).toNat % 2 ^ 11 = 0 := congrArg BitVec.toNat hfields.1
      omega
    · rw [unpackMantissa_packComponents] at hfields
      have hmantissa : m % 2 ^ 52 = 0 := congrArg BitVec.toNat hfields.2
      have hlog : m.log2 < 53 := (Nat.log2_lt hm.ne').2 hlt
      have hlt' : m < 2 ^ 52 := (Nat.log2_lt hm.ne').1 (by omega)
      omega

/-! ## Sums of two numbers -/

variable {x y : Float.Model}

theorem model_pack_unpack (x : Float.Model) : Float.Model.pack x.unpack = x := by
  obtain ⟨bits, hvalid⟩ := x
  have hbits : UInt64.ofBitVec (UnpackedFloat.pack .binary64
      (UnpackedFloat.unpack .binary64 bits.toBitVec)) = bits := by
    rw [pack_unpack hvalid, UInt64.ofBitVec_toBitVec]
  exact (Float.Model.mk.injEq ..).mpr hbits

theorem unpack_pack_notANumber_ne : (Float.Model.pack .notANumber).unpack ≠ .zero .negative := by
  change UnpackedFloat.notANumber ≠ _
  nofun

theorem unpack_pack_infinity_ne (s : Sign) :
    (Float.Model.pack (.infinity s)).unpack ≠ .zero .negative := by
  have hself : (Float.Model.pack (.infinity s)).unpack = .infinity s := by cases s <;> rfl
  rw [hself]
  nofun

theorem unpack_pack_zero_ne :
    (Float.Model.pack (.zero .positive)).unpack ≠ .zero .negative := by
  change UnpackedFloat.zero .positive ≠ _
  nofun

theorem unpack_pack_finite_ne {hm : 0 < m} (h : x.unpack = .finite s m e hm) :
    (Float.Model.pack (.finite s m e hm)).unpack ≠ .zero .negative := by
  rw [← h, model_pack_unpack, h]
  nofun

/-- An exact sum that is rounded is minus zero in no case; it is zero if nothing is left. -/
theorem unpack_pack_normalize_ne (n : Int) (he : -1074 ≤ e) :
    (Float.Model.pack (UnpackedFloat.normalize .binary64 n e .positive)).unpack ≠
      .zero .negative := by
  rw [UnpackedFloat.normalize]
  rcases lt_trichotomy n 0 with hneg | hzero | hpos
  · rw [Int.compare_eq_lt.2 hneg]
    exact (round_isStorable (by omega) he).unpack_pack_ne_zero
  · rw [Int.compare_eq_eq.2 hzero]
    exact unpack_pack_zero_ne
  · rw [Int.compare_eq_gt.2 hpos]
    exact (round_isStorable (by omega) he).unpack_pack_ne_zero

/-- A sum is minus zero only if its first number is. -/
theorem unpack_add_ne (h : x.unpack ≠ .zero .negative) : (x + y).unpack ≠ .zero .negative := by
  have hsum : x + y = Float.Model.pack (UnpackedFloat.add .binary64 x.unpack y.unpack) := rfl
  rw [hsum]
  cases hx : x.unpack with
  | notANumber => exact unpack_pack_notANumber_ne
  | infinity s =>
    cases hy : y.unpack with
    | notANumber => exact unpack_pack_notANumber_ne
    | infinity t =>
      have hboth : UnpackedFloat.add .binary64 (.infinity s) (.infinity t) =
          if s == t then .infinity s else .notANumber := rfl
      rw [hboth]
      split
      · exact unpack_pack_infinity_ne s
      · exact unpack_pack_notANumber_ne
    | zero t => exact unpack_pack_infinity_ne s
    | finite t m e hm => exact unpack_pack_infinity_ne s
  | zero s =>
    -- the first number is zero and not minus zero
    cases s with
    | negative => exact absurd hx h
    | positive =>
      cases hy : y.unpack with
      | notANumber => exact unpack_pack_notANumber_ne
      | infinity t => exact unpack_pack_infinity_ne t
      | zero t => cases t <;> exact unpack_pack_zero_ne
      | finite t m e hm => exact unpack_pack_finite_ne hy
  | finite s m e hm =>
    cases hy : y.unpack with
    | notANumber => exact unpack_pack_notANumber_ne
    | infinity t => exact unpack_pack_infinity_ne t
    | zero t => exact unpack_pack_finite_ne hx
    | finite t k d hk =>
      have hleX : -1074 ≤ e := le_exponent_of_unpack hx
      have hleY : -1074 ≤ d := le_exponent_of_unpack hy
      exact unpack_pack_normalize_ne _ (by omega)

/-- Adding zero changes nothing but minus zero. -/
theorem model_add_zero (h : x.unpack ≠ .zero .negative) : x + Float.Model.ofBits 0 = x := by
  have hsum : x + Float.Model.ofBits 0 =
      Float.Model.pack (UnpackedFloat.add .binary64 x.unpack (.zero .positive)) := rfl
  have hsame : UnpackedFloat.add .binary64 x.unpack (.zero .positive) = x.unpack := by
    cases hx : x.unpack with
    | zero s =>
      cases s with
      | negative => exact absurd hx h
      | positive => rfl
    | _ => rfl
  rw [hsum, hsame, model_pack_unpack]

/-! ## Sums from zero on -/

/-- What a sum that is counted up from zero may come to: all that the machine calculates with,
except minus zero. -/
def IsTally (x : Double) : Prop :=
  ∃ f : Float.Model, x = ⟨f.toBits⟩ ∧ f.unpack ≠ .zero .negative

theorem isTally_zero : IsTally .zero :=
  ⟨.ofBits 0, rfl, nofun⟩

theorem IsTally.add {x : Double} (h : IsTally x) (y : Double) : IsTally (x.add y) := by
  obtain ⟨f, rfl, hf⟩ := h
  have hsum : Double.add ⟨f.toBits⟩ y = ⟨(f + Float.Model.ofBits y.bits).toBits⟩ :=
    congrArg (fun g => (⟨(g + Float.Model.ofBits y.bits).toBits⟩ : Double)) (model_pack_unpack f)
  exact ⟨_, hsum, unpack_add_ne hf⟩

theorem IsTally.add_zero {x : Double} (h : IsTally x) : x.add .zero = x := by
  obtain ⟨f, rfl, hf⟩ := h
  have hsum : Double.add ⟨f.toBits⟩ .zero = ⟨(f + Float.Model.ofBits 0).toBits⟩ :=
    congrArg (fun g => (⟨(g + Float.Model.ofBits 0).toBits⟩ : Double)) (model_pack_unpack f)
  rw [hsum, model_add_zero hf]

end FleetDashboard.Double
