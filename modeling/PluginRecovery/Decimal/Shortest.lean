import PluginRecovery.Decimal.Binary

/-!
The shortest decimal that reads back as a given binary number: of the numbers with the fewest digits
between the midpoints to its two neighbours, the nearest one.
-/

set_option autoImplicit false
set_option relaxedAutoImplicit false

namespace PluginRecovery.Decimal

/-- The number `digits * 10 ^ exponent`. -/
structure Figures where
  digits : Nat
  exponent : Int
  deriving DecidableEq

/-- Which of two equally near decimals is taken: the greater, or the one with an even last digit. -/
inductive Tie where
  | up
  | even
  deriving DecidableEq

/-- A positive fraction. -/
structure Ratio where
  num : Nat
  den : Nat

/-- A quarter of the mantissa's unit, `count` times. -/
def Binary.quarters (b : Binary) (count : Nat) : Ratio :=
  if 2 ≤ b.exponent then ⟨count * Nat.pow 2 (b.exponent - 2).toNat, 1⟩
  else ⟨count, Nat.pow 2 (2 - b.exponent).toNat⟩

/-- The fraction counted in units of `10 ^ grid`. -/
def Ratio.scaled (r : Ratio) (grid : Int) : Ratio :=
  if 0 ≤ grid then ⟨r.num, r.den * Nat.pow 10 grid.toNat⟩
  else ⟨r.num * Nat.pow 10 (-grid).toNat, r.den⟩

/-- The exponent of the leading decimal digit. -/
def Ratio.leading (r : Ratio) : Int :=
  if r.den ≤ r.num then (Nat.toDigits 10 (r.num / r.den)).length - 1
  else -(Nat.toDigits 10 ((r.den - 1) / r.num)).length

/-- The nearest number of the grid `10 ^ grid` that reads back, if one does. A midpoint itself reads
back when the mantissa is even. -/
def Binary.onGrid? (b : Binary) (tie : Tie) (grid : Int) : Option Figures :=
  let value := (b.quarters (4 * b.mantissa)).scaled grid
  let low := (b.quarters (4 * b.mantissa - if b.narrowBelow then 1 else 2)).scaled grid
  let high := (b.quarters (4 * b.mantissa + 2)).scaled grid
  let below := value.num / value.den
  let reads (least most : Nat) : Bool := least < most || (least == most && b.mantissa % 2 == 0)
  let belowReads := reads low.num (below * low.den)
  let aboveReads := reads ((below + 1) * high.den) high.num
  let twice := 2 * value.num
  let middle := (2 * below + 1) * value.den
  let takesBelow := twice < middle || (twice == middle && tie == .even && below % 2 == 0)
  if belowReads && (takesBelow || !aboveReads) then some ⟨below, grid⟩
  else if aboveReads then some ⟨below + 1, grid⟩
  else none

/-- The first hit with `count` digits or more, trying `tries` counts. -/
def Binary.search (b : Binary) (tie : Tie) (leading : Int) : (tries count : Nat) → Figures
  | 0, _ => ⟨b.mantissa, 0⟩
  | tries + 1, count =>
    match b.onGrid? tie (leading - count + 1) with
    | some found => found
    | none => b.search tie leading tries (count + 1)

/-- Without the zeros at the end; `fuel` bounds their number. -/
def Figures.withoutZeros : Nat → Figures → Figures
  | 0, d => d
  | fuel + 1, d =>
    if d.digits % 10 = 0 ∧ d.digits ≠ 0 then withoutZeros fuel ⟨d.digits / 10, d.exponent + 1⟩
    else d

/-- The shortest decimal that reads back. Seventeen digits are enough for every double. -/
def Binary.shortest (b : Binary) (tie : Tie) : Figures :=
  (b.search tie (b.quarters (4 * b.mantissa)).leading 17 1).withoutZeros 17

end PluginRecovery.Decimal
