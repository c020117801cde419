/-!
Reading decimal numerals: whole numbers of sixty-four bits, and doubles.
-/

set_option autoImplicit false
set_option relaxedAutoImplicit false

namespace PluginRecovery.Decimal

/-- The number with the given digits after the digits of `acc`. -/
def natOfDigits (acc : Nat) (digits : List Char) : Nat :=
  digits.foldl (fun n c => n * 10 + (c.toNat - '0'.toNat)) acc

/-- A nonempty row of digits, and nothing else. -/
def natural? (text : List Char) : Option Nat :=
  if text.isEmpty || !text.all Char.isDigit then none else some (natOfDigits 0 text)

/-- The sign in front, if there is one, and what follows. -/
def splitSign : List Char → Bool × List Char
  | '-' :: rest => (true, rest)
  | '+' :: rest => (false, rest)
  | text => (false, text)

/-- A whole number with an optional sign. -/
def integer? (text : List Char) : Option Int :=
  let (negative, digits) := splitSign text
  (natural? digits).map fun (n : Nat) => if negative then -n else n

/-- A whole number with an optional sign, between `-2 ^ 63` and `2 ^ 63 - 1`. -/
def int64? (text : List Char) : Option Int :=
  (integer? text).filter fun n => -0x8000000000000000 ≤ n ∧ n < 0x8000000000000000

/-- The double nearest to `digits * 10 ^ exponent`. Numbers of 310 places and more are infinite,
those below `10 ^ (-400)` are zero. -/
def nearestDouble (digits : Nat) (exponent : Int) : Float :=
  let places : Int := (Nat.toDigits 10 digits).length + exponent
  if digits = 0 ∨ places < -400 then 0.0
  else if 310 < places then 1.0 / 0.0
  else if exponent < 0 then Float.ofScientific digits true exponent.natAbs
  else Float.ofScientific digits false exponent.natAbs

/-- The exponent part of a numeral: nothing, or a mark, an optional sign and digits. -/
def exponent? : List Char → Option Int
  | [] => some 0
  | mark :: rest => if mark == 'e' || mark == 'E' then integer? rest else none

/-- The digits behind a point, if there is one, and what follows. -/
def splitFraction : List Char → List Char × List Char
  | '.' :: rest => (rest.takeWhile Char.isDigit, rest.dropWhile Char.isDigit)
  | rest => ([], rest)

/-- A decimal numeral: an optional sign, digits with at most one point and at least one digit, and
an optional exponent. -/
def double? (text : List Char) : Option Float :=
  let (negative, unsigned) := splitSign text
  let whole := unsigned.takeWhile Char.isDigit
  let (fraction, rest) := splitFraction (unsigned.dropWhile Char.isDigit)
  if whole.isEmpty && fraction.isEmpty then none
  else match exponent? rest with
    | none => none
    | some exponent =>
      let x := nearestDouble (natOfDigits 0 (whole ++ fraction)) (exponent - fraction.length)
      some (if negative then -x else x)

end PluginRecovery.Decimal
