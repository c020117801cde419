import PluginRecovery.Decimal.Shortest

/-!
Two ways to write a number down: plainly, with every place spelled out, and in the form of JSON
texts, where very large and very small numbers have an exponent.
-/

set_option autoImplicit false
set_option relaxedAutoImplicit false

namespace PluginRecovery.Decimal

def Figures.text (d : Figures) : List Char :=
  Nat.toDigits 10 d.digits

/-- How many digits stand before the point; negative when zeros follow it. -/
def Figures.point (d : Figures) : Int :=
  d.text.length + d.exponent

/-- Every place is written; `whole` closes a number without a fractional part. -/
def Figures.positional (d : Figures) (whole : List Char) : List Char :=
  let text := d.text
  let point := d.point
  if point ≤ 0 then "0.".toList ++ List.replicate (-point).toNat '0' ++ text
  else if 0 ≤ d.exponent then text ++ List.replicate d.exponent.toNat '0' ++ whole
  else text.take point.toNat ++ '.' :: text.drop point.toNat

/-- One digit before the point and a signed exponent. -/
def Figures.scientific (d : Figures) : List Char :=
  let exponent := d.point - 1
  let mantissa := match d.text with
    | [] => []
    | [only] => [only]
    | first :: more => first :: '.' :: more
  let sign := if exponent < 0 then '-' else '+'
  mantissa ++ 'e' :: sign :: Nat.toDigits 10 exponent.natAbs

/-- A minus sign for a negative number. -/
def signed (negative : Bool) (text : List Char) : List Char :=
  if negative then '-' :: text else text

/-- The plain form: no exponent, and no point in a whole number. -/
def Reading.plain : Reading → String
  | .nan => "NaN"
  | .infinite negative => String.ofList (signed negative "inf".toList)
  | .zero negative => String.ofList (signed negative ['0'])
  | .finite negative b => String.ofList (signed negative ((b.shortest .up).positional []))

/-- The form in JSON texts: a point in every number, and an exponent from `1e+16` up and below
`0.00001`. What is not finite has none. -/
def Reading.json? : Reading → Option String
  | .nan => none
  | .infinite _ => none
  | .zero negative => some (String.ofList (signed negative "0.0".toList))
  | .finite negative b =>
    let d := b.shortest .even
    let text := if -5 < d.point && d.point ≤ 16 then d.positional ".0".toList else d.scientific
    some (String.ofList (signed negative text))

end PluginRecovery.Decimal
