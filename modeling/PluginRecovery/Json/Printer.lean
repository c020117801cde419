import PluginRecovery.Json.Basic

/-!
Writing JSON: compactly, or with one item on a line. Only quotes, backslashes and control characters
below U+0020 are escaped.
-/

set_option autoImplicit false
set_option relaxedAutoImplicit false

namespace PluginRecovery.Json

def hexDigit (n : Nat) : Char :=
  Nat.digitChar n

/-- A character inside a string literal. -/
def escape (c : Char) : List Char :=
  match c with
  | '"' => ['\\', '"']
  | '\\' => ['\\', '\\']
  | '\n' => ['\\', 'n']
  | '\r' => ['\\', 'r']
  | '\t' => ['\\', 't']
  | c =>
    if c.toNat = 8 then ['\\', 'b']
    else if c.toNat = 12 then ['\\', 'f']
    else if c.toNat < 0x20 then
      ['\\', 'u', '0', '0', hexDigit (c.toNat / 16), hexDigit (c.toNat % 16)]
    else [c]

def quoted (text : List Char) : List Char :=
  '"' :: text.flatMap escape ++ ['"']

/-- The literal of a string, with U+FFFD where there is no text. -/
def literal : Option String → List Char
  | some s => quoted s.toList
  | none => quoted ['\uFFFD']

mutual

/-- The text of a value without any white space. -/
def chars : Json → List Char
  | .null => "null".toList
  | .bool true => "true".toList
  | .bool false => "false".toList
  | .number n => n.toList
  | .string s => literal s
  | .array items => '[' :: itemChars items ++ [']']
  | .object members => '{' :: memberChars members ++ ['}']

def itemChars : List Json → List Char
  | [] => []
  | [item] => chars item
  | item :: rest => chars item ++ ',' :: itemChars rest

def memberChars : List (Option String × Json) → List Char
  | [] => []
  | [(name, value)] => literal name ++ ':' :: chars value
  | (name, value) :: rest => literal name ++ ':' :: chars value ++ ',' :: memberChars rest

end

def compact (j : Json) : String :=
  String.ofList j.chars

/-- A new line, indented by two spaces for each level. -/
def newline (level : Nat) : List Char :=
  '\n' :: List.replicate (2 * level) ' '

mutual

/-- The text with each item on its own line; empty arrays and objects stay closed. -/
def prettyChars (level : Nat) : Json → List Char
  | .array [] => "[]".toList
  | .array items => '[' :: prettyItems (level + 1) items ++ newline level ++ [']']
  | .object [] => ['{', '}']
  | .object members => '{' :: prettyMembers (level + 1) members ++ newline level ++ ['}']
  | .null => "null".toList
  | .bool true => "true".toList
  | .bool false => "false".toList
  | .number n => n.toList
  | .string s => literal s

/-- The items, each on a line of its own. -/
def prettyItems (level : Nat) : List Json → List Char
  | [] => []
  | [item] => newline level ++ prettyChars level item
  | item :: rest => newline level ++ prettyChars level item ++ ',' :: prettyItems level rest

/-- The members, each on a line of its own. -/
def prettyMembers (level : Nat) : List (Option String × Json) → List Char
  | [] => []
  | [(name, value)] => newline level ++ literal name ++ ": ".toList ++ prettyChars level value
  | (name, value) :: rest =>
    newline level ++ literal name ++ ": ".toList ++ prettyChars level value ++
      ',' :: prettyMembers level rest

end

def pretty (j : Json) : String :=
  String.ofList (j.prettyChars 0)

end PluginRecovery.Json
