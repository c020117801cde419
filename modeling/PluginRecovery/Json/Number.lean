import PluginRecovery.Decimal.Binary
import PluginRecovery.Decimal.Numeral
import PluginRecovery.Json.Basic

/-!
The value of a number literal in single precision. Whole numbers of sixty-four bits are rounded
once. Others go through a double: the digits that fit sixty-four bits, times or divided by a power
of ten.
-/

set_option autoImplicit false
set_option relaxedAutoImplicit false

namespace PluginRecovery.Json

open PluginRecovery.Decimal

/-- The digits read so far, as far as they fit sixty-four bits, and the exponent they have got. -/
structure Scanned where
  significand : Nat := 0
  exponent : Int := 0
  /-- Digits no longer fit. -/
  full : Bool := false

/-- Whether another digit does not fit. -/
def Scanned.overflows (s : Scanned) (digit : Nat) : Bool :=
  0x10000000000000000 ≤ s.significand * 10 + digit

def digitValue (c : Char) : Nat :=
  c.toNat - '0'.toNat

/-- The whole part: digits that do not fit count as zeros. -/
def Scanned.whole (s : Scanned) : List Char → Scanned
  | [] => s
  | c :: rest =>
    if s.full || s.overflows (digitValue c) then
      whole { s with exponent := s.exponent + 1, full := true } rest
    else whole { s with significand := s.significand * 10 + digitValue c } rest

/-- The fraction: from the first digit on that does not fit, digits are left out. -/
def Scanned.fraction (s : Scanned) : List Char → Scanned
  | [] => s
  | c :: rest =>
    if s.overflows (digitValue c) then s
    else fraction { s with
      significand := s.significand * 10 + digitValue c
      exponent := s.exponent - 1 } rest

/-- A power of ten, up to `10 ^ 308`. -/
def powerOfTen (n : Nat) : Float :=
  Float.ofScientific 1 false n

/-- The quotient by `10 ^ n`, in steps that a double can hold; `fuel` bounds the steps. -/
def divideByPower (x : Float) (n : Nat) : (fuel : Nat) → Float
  | 0 => x
  | fuel + 1 =>
    if n ≤ 308 then x / powerOfTen n
    else if x == 0.0 then x
    else divideByPower (x / powerOfTen 308) (n - 308) fuel

/-- The double that a significand and an exponent make, if it is in range. -/
def doubleOfParts? (significand : Nat) (exponent : Int) : Option Float :=
  let x := significand.toUInt64.toFloat
  if exponent < 0 then some (divideByPower x exponent.natAbs 8)
  else if x == 0.0 then some x
  else if 308 < exponent then none
  else
    let y := x * powerOfTen exponent.toNat
    if y.isInf then none else some y

/-- An exponent: a sign and digits. Those that pass 31 bits are cut off there. -/
def exponentValue (text : List Char) : Int :=
  let (negative, digits) := splitSign text
  let n := min (natOfDigits 0 digits) 0x7fffffff
  if negative then -n else n

/-- A literal in single precision, without its sign. -/
def unsignedSingle? (text : List Char) : Option Float32 :=
  let isDigit (c : Char) := c.isDigit
  let (whole, rest) := (text.takeWhile isDigit, text.dropWhile isDigit)
  let scanned := Scanned.whole {} whole
  let (fraction, rest) := match rest with
    | '.' :: rest => (rest.takeWhile isDigit, rest.dropWhile isDigit)
    | rest => ([], rest)
  if fraction.isEmpty && rest.isEmpty && !scanned.full then
    some scanned.significand.toUInt64.toFloat32
  else
    let scanned := scanned.fraction fraction
    let exponent := match rest with
      | [] => 0
      | _ :: rest => exponentValue rest
    (doubleOfParts? scanned.significand (scanned.exponent + exponent)).map Float.toFloat32

def single? : Json → Option Reading
  | .number literal =>
    match literal.toList with
    | '-' :: rest => (unsignedSingle? rest).map fun x => ofSingle (-x)
    | text => (unsignedSingle? text).map ofSingle
  | _ => none

end PluginRecovery.Json
