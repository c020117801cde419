import PluginRecovery.Script.Comments

/-!
Matching braces, and splitting at commas outside brackets and literals. Both tell a quote that is
escaped by looking back over the backslashes before it.
-/

set_option autoImplicit false
set_option relaxedAutoImplicit false

namespace PluginRecovery.Script

open PluginRecovery.Text

/-- Whether an odd number of backslashes ends the given bytes, newest first. -/
def escapedAfter (before : List UInt8) : Bool :=
  (before.takeWhile isBackslash).length % 2 == 1

/-- Whether the byte at `index` is escaped; none is at the start or beyond the end. -/
def isEscaped (data : List UInt8) (index : Nat) : Bool :=
  index ≤ data.length && escapedAfter (data.take index).reverse

/-- The literal that is open after an unescaped quote, given the one open before it: a quote of the
other kind changes nothing. -/
def toggle (inside : Option UInt8) (quote : UInt8) : Option UInt8 :=
  match inside with
  | none => some quote
  | some open_ => if quote == open_ then none else some open_

/-- The offset of the brace that closes `depth + 1` open ones. `before` holds the bytes read,
newest first, `inside` the quote of the literal the scan is in, and `offset` where `rest` begins. -/
def closingFrom (before : List UInt8) (inside : Option UInt8) (depth offset : Nat) :
    List UInt8 → Option Nat
  | [] => none
  | b :: rest =>
    if (b == '"'.toUInt8 || b == '\''.toUInt8) && !escapedAfter before then
      closingFrom (b :: before) (toggle inside b) depth (offset + 1) rest
    else if inside.isNone && b == '{'.toUInt8 then
      closingFrom (b :: before) inside (depth + 1) (offset + 1) rest
    else if inside.isNone && b == '}'.toUInt8 then
      match depth with
      | 0 => some offset
      | depth + 1 => closingFrom (b :: before) inside depth (offset + 1) rest
    else closingFrom (b :: before) inside depth (offset + 1) rest

/-- The offset of the `\x7d` that closes a brace whose body begins at `start`. Braces in single and
double quoted literals do not count. -/
def closingBrace? (data : List UInt8) (start : Nat) : Option Nat :=
  closingFrom (data.take start).reverse none 0 start (data.drop start)

/-- Where a split stands: the open literal, and how many braces and brackets are open, less the
stray closing ones. -/
structure Nesting where
  inside : Option UInt8 := none
  braces : Int := 0
  brackets : Int := 0
  deriving DecidableEq

/-- Outside every literal, brace and bracket. -/
def Nesting.isTop (n : Nesting) : Bool :=
  n.inside.isNone && n.braces == 0 && n.brackets == 0

/-- The nesting after a byte, with the bytes before it newest first. -/
def Nesting.step (n : Nesting) (before : List UInt8) (b : UInt8) : Nesting :=
  if isQuote b && !escapedAfter before then { n with inside := toggle n.inside b }
  else if n.inside.isSome then n
  else if b == '{'.toUInt8 then { n with braces := n.braces + 1 }
  else if b == '}'.toUInt8 then { n with braces := n.braces - 1 }
  else if b == '['.toUInt8 then { n with brackets := n.brackets + 1 }
  else if b == ']'.toUInt8 then { n with brackets := n.brackets - 1 }
  else n

/-- The segments between the commas at the top. `before` holds the bytes read and `segment` those
of the current segment, newest first. -/
def segmentsFrom (n : Nesting) (before segment : List UInt8) : List UInt8 → List (List UInt8)
  | [] => [segment.reverse]
  | b :: rest =>
    if b == ','.toUInt8 && n.isTop then segment.reverse :: segmentsFrom n (b :: before) [] rest
    else segmentsFrom (n.step before b) (b :: before) (b :: segment) rest

/-- The segments between the commas that stand outside literals, braces and brackets. -/
def segments (data : List UInt8) : List (List UInt8) :=
  segmentsFrom {} [] [] data

/-- The pieces between the commas at the top, without the empty ones, each trimmed. -/
def splitAtCommas (text : List Char) : List (List Char) :=
  ((segments (bytes text)).filter (!·.isEmpty)).map fun segment => trim (decode segment)

end PluginRecovery.Script
