import PluginRecovery.Html.ReferenceTable
import PluginRecovery.Text.Bytes

/-!
Character references: `&` and a name, or `&#` and a code. The longest name that fits is taken. In
the value of an attribute a name without its semicolon does not count before a letter, a digit or
an equals sign.
-/

set_option autoImplicit false
set_option relaxedAutoImplicit false

namespace PluginRecovery.Html

open PluginRecovery.Text

/-- What codes from 128 to 159 stand for, where it is another character. -/
def oldCodes : List Nat := [
  0x20AC, 0x81, 0x201A, 0x0192, 0x201E, 0x2026, 0x2020, 0x2021, 0x02C6, 0x2030, 0x0160, 0x2039,
  0x0152, 0x8D, 0x017D, 0x8F, 0x90, 0x2018, 0x2019, 0x201C, 0x201D, 0x2022, 0x2013, 0x2014, 0x02DC,
  0x2122, 0x0161, 0x203A, 0x0153, 0x9D, 0x017E, 0x0178]

def codeCharacter (code : Nat) : Char :=
  if 128 ≤ code && code < 160 then Char.ofNat (oldCodes.getD (code - 128) 0)
  else if code ≠ 0 && code.isValidChar then Char.ofNat code
  else replacement

def hexDigit? (c : Char) : Option Nat :=
  if '0' ≤ c && c ≤ '9' then some (c.toNat - '0'.toNat)
  else if 'a' ≤ c && c ≤ 'f' then some (c.toNat - 'a'.toNat + 10)
  else if 'A' ≤ c && c ≤ 'F' then some (c.toNat - 'A'.toNat + 10)
  else none

/-- The value of digits, as far as it matters: larger ones name no character. -/
def codeValue (base : Nat) (digits : List Char) : Nat :=
  digits.foldl (fun value c => min (value * base + (hexDigit? c).getD 0) 0x110000) 0

def dropSemicolon : List Char → List Char
  | ';' :: rest => rest
  | text => text

/-- Read a code in a base from the digits at the front. -/
def codeReference? (base : Nat) (isDigit : Char → Bool) (text : List Char) :
    Option (List Char × List Char) :=
  match text.takeWhile isDigit with
  | [] => none
  | digits =>
    some ([codeCharacter (codeValue base digits)], dropSemicolon (text.drop digits.length))

/-- The longest name at the front of a text. -/
def longestName? (text : List Char) : Option (List Char × List Char) :=
  namedReferences.foldl
    (fun best entry =>
      if entry.1.isPrefixOf text &&
          best.all (fun (found : List Char × List Char) => found.1.length < entry.1.length)
      then some entry else best)
    none

def namedReference? (inAttribute : Bool) (text : List Char) : Option (List Char × List Char) :=
  match longestName? text with
  | none => none
  | some (name, meaning) =>
    let rest := text.drop name.length
    let goesOn := rest.head?.any fun c => c == '=' || c.isAlphanum
    if inAttribute && name.getLast? != some ';' && goesOn then none else some (meaning, rest)

/-- What follows an `&`, when it is a reference: its characters and the text after it. -/
def reference? (inAttribute : Bool) : List Char → Option (List Char × List Char)
  | '#' :: 'x' :: rest | '#' :: 'X' :: rest => codeReference? 16 (hexDigit? · |>.isSome) rest
  | '#' :: rest => codeReference? 10 Char.isDigit rest
  | text => namedReference? inAttribute text

/-- A text with its references replaced, reading at most `fuel` characters. -/
def withReferencesFrom (inAttribute : Bool) : Nat → List Char → List Char
  | 0, text => text
  | _ + 1, [] => []
  | fuel + 1, c :: rest =>
    if c == '&' then
      match reference? inAttribute rest with
      | some (meaning, rest') => meaning ++ withReferencesFrom inAttribute fuel rest'
      | none => c :: withReferencesFrom inAttribute fuel rest
    else c :: withReferencesFrom inAttribute fuel rest

/-- A text with its references replaced. -/
def withReferences (inAttribute : Bool) (text : List Char) : List Char :=
  withReferencesFrom inAttribute text.length text

end PluginRecovery.Html
