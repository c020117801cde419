import PluginRecovery.Text.Bytes

/-!
Percent encoding: a byte as `%` and two hexadecimal digits. What is kept as it is depends on the
place, so the encoder takes the kept characters as a predicate.
-/

set_option autoImplicit false
set_option relaxedAutoImplicit false

namespace PluginRecovery.Text

/-- The hexadecimal digit of a value below sixteen, in upper case. -/
def upperHexDigit (n : Nat) : Char :=
  Char.ofNat (if n < 10 then '0'.toNat + n else 'A'.toNat + n - 10)

def hexDigitValue? (b : UInt8) : Option Nat :=
  let n := b.toNat
  if '0'.toNat ≤ n && n ≤ '9'.toNat then some (n - '0'.toNat)
  else if 'a'.toNat ≤ n && n ≤ 'f'.toNat then some (n - 'a'.toNat + 10)
  else if 'A'.toNat ≤ n && n ≤ 'F'.toNat then some (n - 'A'.toNat + 10)
  else none

def percentByte (b : UInt8) : List Char :=
  ['%', upperHexDigit (b.toNat / 16), upperHexDigit (b.toNat % 16)]

/-- Each character as it is when it is kept, else as its encoded bytes. -/
def percentEncode (kept : Char → Bool) (text : List Char) : List Char :=
  text.flatMap fun c => if kept c then [c] else (String.utf8EncodeChar c).flatMap percentByte

/-- The byte that `%` and two digits name. -/
def percentEscape? (sign high low : UInt8) : Option UInt8 :=
  if sign == '%'.toUInt8 then do
    return UInt8.ofNat ((← hexDigitValue? high) * 16 + (← hexDigitValue? low))
  else none

/-- Each `%` with two digits after it as the byte they name; all else as it is. -/
def percentDecode : List UInt8 → List UInt8
  | b :: high :: low :: rest =>
    match percentEscape? b high low with
    | some byte => byte :: percentDecode rest
    | none => b :: percentDecode (high :: low :: rest)
  | text => text

/-- Letters, digits and `-_.~`: the characters that need no encoding anywhere in an address. -/
def isUnreserved (c : Char) : Bool :=
  c.isAlphanum || c == '-' || c == '_' || c == '.' || c == '~'

end PluginRecovery.Text
