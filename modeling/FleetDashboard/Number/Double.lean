/-!
# Doubles

IEEE 754 binary64 numbers, held by their bits so that equality is decidable and every NaN keeps its
payload. Arithmetic goes through the machine's operations; the conversions from and to whole
numbers, the total order and the decomposition into mantissa and exponent read the bits alone.

Main statement: `Double.compare` is the order of the integer keys `Double.orderKey`, so it is a
total preorder by construction.
-/

namespace FleetDashboard

/-- A binary64 number by its bits. -/
structure Double where
  /-- Sign, exponent and fraction, most significant first. -/
  bits : UInt64
deriving DecidableEq

namespace Double

/-- The machine number with these bits. -/
def toFloat (x : Double) : Float :=
  Float.ofBits x.bits

/-- The bits of a machine number. -/
def ofFloat (x : Float) : Double :=
  ⟨x.toBits⟩

/-- Zero. -/
def zero : Double := ⟨0⟩

/-- The rounded sum. -/
def add (x y : Double) : Double :=
  ofFloat (x.toFloat + y.toFloat)

/-- The rounded product. -/
def mul (x y : Double) : Double :=
  ofFloat (x.toFloat * y.toFloat)

instance : Add Double := ⟨add⟩
instance : Mul Double := ⟨mul⟩

/-- The double nearest to `digits * 10 ^ exponent`, ties to even. Exponents beyond every double are
settled without computing the power. -/
def ofDecimal (digits : Nat) (exponent : Int) : Double :=
  if digits = 0 then zero
  else
    let top := exponent + ((Nat.toDigits 10 digits).length : Int)
    if 400 < top then ofFloat (1.0 / 0.0)
    else if top < -400 then zero
    else ofFloat (Float.ofScientific digits (exponent < 0) exponent.natAbs)

/-- The number with the sign changed. -/
def neg (x : Double) : Double :=
  ofFloat (-x.toFloat)

/-! ## The bit fields -/

/-- Whether the sign bit is set. -/
def isNegative (x : Double) : Bool :=
  0x8000000000000000 ≤ x.bits

/-- The biased exponent. -/
def exponentField (x : Double) : Nat :=
  x.bits.toNat / 4503599627370496 % 2048

/-- The fraction. -/
def fractionField (x : Double) : Nat :=
  x.bits.toNat % 4503599627370496

/-- Whether it is a NaN. -/
def isNaN (x : Double) : Bool :=
  x.exponentField == 2047 && x.fractionField != 0

/-- Whether it is an infinity. -/
def isInfinite (x : Double) : Bool :=
  x.exponentField == 2047 && x.fractionField == 0

/-- Whether it is neither a NaN nor an infinity. -/
def isFinite (x : Double) : Bool :=
  x.exponentField != 2047

/-! ## Whole numbers -/

/-- The quotient as a whole number, ties to even. -/
def nearestQuotient (n d : Nat) : Nat :=
  let below := n / d
  let twice := 2 * (n % d)
  if d < twice || (twice == d && below % 2 == 1) then below + 1 else below

/-- The 53 leading binary digits of a whole number whose first digit has the given place; the last
of them is rounded. -/
def significand (place n : Nat) : Nat :=
  if place ≤ 52 then n * Nat.pow 2 (52 - place) else nearestQuotient n (Nat.pow 2 (place - 52))

/-- The bits of the double nearest to a whole number. A significand that is rounded up to a power of
two carries over into the exponent. -/
def wholeBits (n : Nat) : Nat :=
  if n = 0 then 0 else (n.log2 + 1022) * 4503599627370496 + significand n.log2 n

/-- The double nearest to a 64-bit integer, ties to even. -/
def ofInt64 (n : Int64) : Double :=
  let bits := wholeBits n.toInt.natAbs
  ⟨UInt64.ofNat (if n.toInt < 0 then 9223372036854775808 + bits else bits)⟩

/-- The whole part without the sign; that of an infinity is beyond 64 bits. -/
def wholePart (x : Double) : Nat :=
  let digits := 4503599627370496 + x.fractionField
  if x.exponentField < 1023 then 0
  else if x.exponentField < 1075 then digits / Nat.pow 2 (1075 - x.exponentField)
  else digits * Nat.pow 2 (x.exponentField - 1075)

/-- The integer part, clamped to 64 bits; a NaN counts as zero. -/
def toInt64 (x : Double) : Int64 :=
  if x.isNaN then 0
  else Int64.ofIntClamp (if x.isNegative then -(x.wholePart : Int) else x.wholePart)

/-! ## The total order -/

/-- The position in the total order: negative NaNs, the negative numbers, minus zero, zero, the
positive numbers, positive NaNs. -/
def orderKey (x : Double) : Int :=
  if x.bits.toNat < 9223372036854775808 then (x.bits.toNat : Int)
  else 9223372036854775807 - (x.bits.toNat : Int)

/-- The IEEE total order. -/
def compare (x y : Double) : Ordering :=
  Ord.compare x.orderKey y.orderKey

/-- Comparing in reverse reverses the answer. -/
theorem compare_swap (x y : Double) : (compare x y).swap = compare y x := by
  simp only [compare, Int.compare_swap]

end Double

end FleetDashboard
