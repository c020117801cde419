import Mathlib
import PluginRecovery.Decimal.Numeral

/-!
Whole numbers and their decimal numerals. `int64?_toString` says that a whole number of sixty-four
bits is read back from the numeral that writes it.
-/

set_option autoImplicit false
set_option relaxedAutoImplicit false

namespace PluginRecovery.Decimal

/-- The value of digits is the library's. -/
theorem natOfDigits_eq_ofDigitChars (acc : ℕ) (digits : List Char) :
    natOfDigits acc digits = Nat.ofDigitChars 10 digits acc := by
  rw [natOfDigits, Nat.ofDigitChars_eq_foldl]
  simp only [Nat.mul_comm]

theorem isDigit_of_mem_toDigits {n : ℕ} {c : Char} (h : c ∈ Nat.toDigits 10 n) : c.isDigit :=
  Nat.isDigit_of_mem_toDigits (by decide) (by decide) h

/-- The digits of a number are read as that number. -/
theorem natural?_toDigits (n : ℕ) : natural? (Nat.toDigits 10 n) = some n := by
  have hdigits : (Nat.toDigits 10 n).all Char.isDigit = true :=
    List.all_eq_true.mpr fun c hc ↦ isDigit_of_mem_toDigits hc
  have hne : (Nat.toDigits 10 n).isEmpty = false := by
    rw [List.isEmpty_eq_false_iff]
    exact Nat.toDigits_ne_nil
  rw [natural?, hne, hdigits, natOfDigits_eq_ofDigitChars, Nat.ofDigitChars_ten_toDigits]
  rfl

/-- The numeral of a whole number: its digits, after a minus sign when it is negative. -/
theorem toList_toString (n : ℤ) :
    (toString n).toList =
      if n < 0 then '-' :: Nat.toDigits 10 n.natAbs else Nat.toDigits 10 n.natAbs := by
  cases n with
  | ofNat m =>
    have hm : ¬ Int.ofNat m < 0 := Int.not_lt.mpr (Int.natCast_nonneg m)
    rw [if_neg hm]
    exact Nat.toList_repr
  | negSucc m =>
    rw [if_pos (Int.negSucc_lt_zero m)]
    change ("-" ++ Nat.repr (m + 1)).toList = _
    rw [String.toList_append, Nat.toList_repr]
    rfl

theorem toList_toString_ne_nil (n : ℤ) : (toString n).toList ≠ [] := by
  rw [toList_toString]
  split_ifs
  · exact List.cons_ne_nil _ _
  · exact Nat.toDigits_ne_nil

/-- Digits have no sign in front. -/
theorem splitSign_toDigits (n : ℕ) :
    splitSign (Nat.toDigits 10 n) = (false, Nat.toDigits 10 n) := by
  unfold splitSign
  split
  · next rest heq =>
    exact absurd (isDigit_of_mem_toDigits (heq ▸ List.mem_cons_self)) (by decide)
  · next rest heq =>
    exact absurd (isDigit_of_mem_toDigits (heq ▸ List.mem_cons_self)) (by decide)
  · rfl

/-- A whole number is read back from its numeral. -/
theorem integer?_toString (n : ℤ) : integer? (toString n).toList = some n := by
  rw [toList_toString]
  by_cases hn : n < 0
  · have hvalue : -(n.natAbs : ℤ) = n := by omega
    simp only [if_pos hn, integer?, splitSign, natural?_toDigits, Option.map_some, if_true, hvalue]
  · have hvalue : (n.natAbs : ℤ) = n := by omega
    simp only [if_neg hn, integer?, splitSign_toDigits, natural?_toDigits, Option.map_some,
      Bool.false_eq_true, if_false, hvalue]

/-- So a whole number of sixty-four bits is, too. -/
theorem int64?_toString {n : ℤ} (hlow : -2 ^ 63 ≤ n) (hhigh : n < 2 ^ 63) :
    int64? (toString n).toList = some n := by
  have hrange : -0x8000000000000000 ≤ n ∧ n < 0x8000000000000000 := ⟨hlow, hhigh⟩
  rw [int64?, integer?_toString]
  exact Option.filter_some_pos (decide_eq_true hrange)

/-- A numeral has digits and minus signs only. -/
theorem mem_toString {n : ℤ} {c : Char} (h : c ∈ (toString n).toList) : c.isDigit ∨ c = '-' := by
  rw [toList_toString] at h
  split_ifs at h
  · rcases List.mem_cons.mp h with rfl | h
    · exact Or.inr rfl
    · exact Or.inl (isDigit_of_mem_toDigits h)
  · exact Or.inl (isDigit_of_mem_toDigits h)

end PluginRecovery.Decimal
