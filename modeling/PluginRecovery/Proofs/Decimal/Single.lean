import Mathlib
import PluginRecovery.Decimal.Binary

/-!
Whole numbers in single precision. A number with no more binary digits than a single has is not
rounded (`roundToWidth_of_lt`), so the single that is nearest to it stands for the number itself
(`value?_singleOfNat`).
-/

set_option autoImplicit false
set_option relaxedAutoImplicit false

namespace PluginRecovery.Decimal

/-- The number that a mantissa and an exponent make. -/
def Binary.value (b : Binary) : ℚ :=
  b.mantissa * 2 ^ b.exponent

/-- The number that a floating point number stands for, if it is finite. -/
def Reading.value? : Reading → Option ℚ
  | .nan | .infinite _ => none
  | .zero _ => some 0
  | .finite negative b => some (if negative then -b.value else b.value)

/-- A number that fits the width is not rounded. -/
theorem roundToWidth_of_lt {width n : ℕ} (hn : n ≠ 0) (h : n < 2 ^ width) :
    roundToWidth width n = (n, 0) := by
  have hexcess : n.log2 + 1 - width = 0 := by
    have hdigits := (Nat.log2_lt hn).mpr h
    omega
  have hwide : (n == 2 ^ width) = false := beq_eq_false_iff_ne.mpr h.ne
  simp [roundToWidth, hexcess, hwide]

/-- The single nearest to a whole number of twenty-four binary digits is the number. -/
theorem value?_singleOfNat {n : ℕ} (h : n < 2 ^ 24) : (singleOfNat n).value? = some (n : ℚ) := by
  rcases Nat.eq_zero_or_pos n with rfl | hpos
  · rfl
  · have hn : n ≠ 0 := Nat.ne_of_gt hpos
    simp [singleOfNat, hn, roundToWidth_of_lt hn h, Reading.value?, Binary.value]

end PluginRecovery.Decimal
