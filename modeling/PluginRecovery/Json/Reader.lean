import PluginRecovery.Json.Basic

/-!
Reading JSON texts. A text is one value with nothing but white space around it.
-/

set_option autoImplicit false
set_option relaxedAutoImplicit false

namespace PluginRecovery.Json

/-- The white space of JSON texts. -/
def isSpace (c : Char) : Bool :=
  c == ' ' || c == '\n' || c == '\t' || c == '\r'

/-- The text from its first character that is not white space on. -/
def skipSpace (text : List Char) : List Char :=
  text.dropWhile isSpace

def hexValue? (c : Char) : Option Nat :=
  if '0' ≤ c ∧ c ≤ '9' then some (c.toNat - '0'.toNat)
  else if 'a' ≤ c ∧ c ≤ 'f' then some (c.toNat - 'a'.toNat + 10)
  else if 'A' ≤ c ∧ c ≤ 'F' then some (c.toNat - 'A'.toNat + 10)
  else none

def hexUnit? (a b c d : Char) : Option Nat := do
  return (((← hexValue? a) * 16 + (← hexValue? b)) * 16 + (← hexValue? c)) * 16 + (← hexValue? d)

/-- What a backslash and a letter stand for. -/
def unescape? : Char → Option Char
  | '"' => some '"'
  | '\\' => some '\\'
  | '/' => some '/'
  | 'b' => some '\x08'
  | 'f' => some '\x0c'
  | 'n' => some '\n'
  | 'r' => some '\r'
  | 't' => some '\t'
  | _ => none

/-- What is read of a string so far: its characters, newest first, with `none` for half a surrogate
pair, and the first half of a pair that waits for the second. -/
structure StringSoFar where
  chars : List (Option Char) := []
  high : Option Nat := none

/-- Add a character; a waiting half stays alone. -/
def StringSoFar.push (s : StringSoFar) (c : Char) : StringSoFar :=
  match s.high with
  | none => { chars := some c :: s.chars }
  | some _ => { chars := some c :: none :: s.chars }

/-- Add a unit of UTF-16. -/
def StringSoFar.pushUnit (s : StringSoFar) (unit : Nat) : StringSoFar :=
  if 0xD800 ≤ unit ∧ unit < 0xDC00 then
    match s.high with
    | none => { s with high := some unit }
    | some _ => { chars := none :: s.chars, high := some unit }
  else if 0xDC00 ≤ unit ∧ unit < 0xE000 then
    match s.high with
    | none => { chars := none :: s.chars }
    | some high =>
      { chars := some (Char.ofNat (0x10000 + (high - 0xD800) * 0x400 + (unit - 0xDC00))) :: s.chars }
  else s.push (Char.ofNat unit)

/-- The text read, if all of it is characters. -/
def StringSoFar.text? (s : StringSoFar) : Option String :=
  if s.high.isSome then none
  else (s.chars.mapM id).map fun chars => String.ofList chars.reverse

/-- The rest of a string literal after its opening quote, and what follows it. -/
def readString (s : StringSoFar) : List Char → Option (Option String × List Char)
  | [] => none
  | '"' :: rest => some (s.text?, rest)
  | '\\' :: 'u' :: a :: b :: c :: d :: rest =>
    match hexUnit? a b c d with
    | some unit => readString (s.pushUnit unit) rest
    | none => none
  | '\\' :: e :: rest =>
    match unescape? e with
    | some c => readString (s.push c) rest
    | none => none
  | c :: rest => if c.toNat < 0x20 || c == '\\' then none else readString (s.push c) rest

/-- The digits at the front, at least one, and what follows. -/
def readDigits (text : List Char) : Option (List Char × List Char) :=
  match text.takeWhile Char.isDigit with
  | [] => none
  | digits => some (digits, text.dropWhile Char.isDigit)

/-- The whole part of a number: no zero in front of other digits. -/
def readWhole : List Char → Option (List Char × List Char)
  | '0' :: c :: rest => if c.isDigit then none else some (['0'], c :: rest)
  | text => readDigits text

def readFraction : List Char → Option (List Char × List Char)
  | '.' :: rest => (readDigits rest).map fun (digits, rest) => ('.' :: digits, rest)
  | text => some ([], text)

def readExponent : List Char → Option (List Char × List Char)
  | mark :: rest =>
    if mark == 'e' || mark == 'E' then
      match rest with
      | '+' :: rest => (readDigits rest).map fun (digits, rest) => (mark :: '+' :: digits, rest)
      | '-' :: rest => (readDigits rest).map fun (digits, rest) => (mark :: '-' :: digits, rest)
      | rest => (readDigits rest).map fun (digits, rest) => (mark :: digits, rest)
    else some ([], mark :: rest)
  | [] => some ([], [])

/-- A number literal without its sign. -/
def readUnsigned (text : List Char) : Option (List Char × List Char) := do
  let (whole, rest) ← readWhole text
  let (fraction, rest) ← readFraction rest
  let (exponent, rest) ← readExponent rest
  return (whole ++ fraction ++ exponent, rest)

def readNumber : List Char → Option (String × List Char)
  | '-' :: rest =>
    (readUnsigned rest).map fun (literal, rest) => (String.ofList ('-' :: literal), rest)
  | text => (readUnsigned text).map fun (literal, rest) => (String.ofList literal, rest)

/-- The name of a member and its colon. -/
def readName (text : List Char) : Option (Option String × List Char) :=
  match skipSpace text with
  | '"' :: rest =>
    match readString {} rest with
    | some (name, rest) =>
      match skipSpace rest with
      | ':' :: rest => some (name, rest)
      | _ => none
    | none => none
  | _ => none

mutual

/-- A value and what follows it; `fuel` bounds the nesting. -/
def readValue : Nat → List Char → Option (Json × List Char)
  | 0, _ => none
  | fuel + 1, text =>
    match skipSpace text with
    | '"' :: rest => (readString {} rest).map fun (s, rest) => (.string s, rest)
    | '[' :: rest =>
      match skipSpace rest with
      | ']' :: rest => some (.array [], rest)
      | _ => (readItems fuel rest).map fun (items, rest) => (.array items, rest)
    | '{' :: rest =>
      match skipSpace rest with
      | '}' :: rest => some (.object [], rest)
      | _ => (readMembers fuel rest).map fun (members, rest) => (.object members, rest)
    | 'n' :: 'u' :: 'l' :: 'l' :: rest => some (.null, rest)
    | 't' :: 'r' :: 'u' :: 'e' :: rest => some (.bool true, rest)
    | 'f' :: 'a' :: 'l' :: 's' :: 'e' :: rest => some (.bool false, rest)
    | rest => (readNumber rest).map fun (literal, rest) => (.number literal, rest)

/-- One item or more, and the bracket that closes them. -/
def readItems : Nat → List Char → Option (List Json × List Char)
  | 0, _ => none
  | fuel + 1, text =>
    match readValue fuel text with
    | none => none
    | some (item, rest) =>
      match skipSpace rest with
      | ',' :: rest => (readItems fuel rest).map fun (items, rest) => (item :: items, rest)
      | ']' :: rest => some ([item], rest)
      | _ => none

/-- One member or more, and the brace that closes them. -/
def readMembers : Nat → List Char → Option (List (Option String × Json) × List Char)
  | 0, _ => none
  | fuel + 1, text =>
    match readName text with
    | none => none
    | some (name, rest) =>
      match readValue fuel rest with
      | none => none
      | some (value, rest) =>
        match skipSpace rest with
        | ',' :: rest =>
          (readMembers fuel rest).map fun (members, rest) => ((name, value) :: members, rest)
        | '}' :: rest => some ([(name, value)], rest)
        | _ => none

end

/-- The value that a text holds. -/
def read? (text : List Char) : Option Json :=
  match readValue (2 * text.length + 2) text with
  | some (value, rest) => if (skipSpace rest).isEmpty then some value else none
  | none => none

end PluginRecovery.Json
