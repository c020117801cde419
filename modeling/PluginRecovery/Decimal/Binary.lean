/-!
Binary floating point numbers taken apart: a finite one is a sign and `mantissa * 2 ^ exponent`.
Doubles and singles differ only in their widths.
-/

set_option autoImplicit false
set_option relaxedAutoImplicit false

namespace PluginRecovery.Decimal

/-- A positive number `mantissa * 2 ^ exponent`. `narrowBelow` says that the next smaller number is
half as far away as the next greater one. -/
structure Binary where
  mantissa : Nat
  exponent : Int
  narrowBelow : Bool
  deriving DecidableEq

/-- What a floating point number stands for. -/
inductive Reading where
  | nan
  | infinite (negative : Bool)
  | zero (negative : Bool)
  | finite (negative : Bool) (magnitude : Binary)
  deriving DecidableEq

/-- Take apart the bits of a number with `width` fraction bits and `range` exponent bits. -/
def readBits (width range bits : Nat) : Reading :=
  let fraction := bits % Nat.pow 2 width
  let biased := bits / Nat.pow 2 width % Nat.pow 2 range
  let negative := bits / Nat.pow 2 (width + range) % 2 == 1
  let least : Int := 2 - Nat.pow 2 (range - 1) - width
  if biased = Nat.pow 2 range - 1 then if fraction = 0 then .infinite negative else .nan
  else if biased = 0 then
    if fraction = 0 then .zero negative else .finite negative ⟨fraction, least, false⟩
  else
    .finite negative
      ⟨fraction + Nat.pow 2 width, least + biased - 1, fraction == 0 && biased != 1⟩

def ofDouble (x : Float) : Reading :=
  readBits 52 11 x.toBits.toNat

def ofSingle (x : Float32) : Reading :=
  readBits 23 8 x.toBits.toNat

/-- A positive whole number with `width` binary digits and an exponent. What does not fit is rounded
to nearest, a half to the even neighbour. -/
def roundToWidth (width n : Nat) : Nat × Nat :=
  let excess := n.log2 + 1 - width
  let quotient := n / Nat.pow 2 excess
  let twice := 2 * (n % Nat.pow 2 excess)
  let up := Nat.pow 2 excess < twice || (twice == Nat.pow 2 excess && quotient % 2 == 1)
  let rounded := if up && excess != 0 then quotient + 1 else quotient
  if rounded == Nat.pow 2 width then (Nat.pow 2 (width - 1), excess + 1) else (rounded, excess)

/-- The single nearest to a whole number. -/
def singleOfNat (n : Nat) : Reading :=
  if n == 0 then .zero false
  else
    let (rounded, exponent) := roundToWidth 24 n
    let shift := 23 - rounded.log2
    let mantissa := rounded * Nat.pow 2 shift
    .finite false ⟨mantissa, (exponent : Int) - shift, mantissa == Nat.pow 2 23⟩

end PluginRecovery.Decimal
