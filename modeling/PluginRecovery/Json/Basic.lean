/-!
JSON values as they are written: numbers keep their literal, objects the order of their members and
members of the same name.
-/

set_option autoImplicit false
set_option relaxedAutoImplicit false

namespace PluginRecovery

/-- A JSON value. The text of a string is `none` when an escape in it is half of a surrogate pair,
so that it is well formed but names no text; so for the names of members. -/
inductive Json where
  | null
  | bool (value : Bool)
  | number (literal : String)
  | string (text : Option String)
  | array (items : List Json)
  | object (members : List (Option String × Json))
  deriving Inhabited

namespace Json

def text (s : String) : Json :=
  .string (some s)

def int (n : Int) : Json :=
  .number (toString n)

def obj (members : List (String × Json)) : Json :=
  .object (members.map fun (name, value) => (some name, value))

/-- A value, or `null`. -/
def ofOption {α : Type} (f : α → Json) : Option α → Json
  | none => .null
  | some a => f a

def list {α : Type} (f : α → Json) (items : List α) : Json :=
  .array (items.map f)

/-- The value of the first member with the given name. -/
def member? (name : String) : Json → Option Json
  | .object members => members.lookup (some name)
  | _ => none

def text? : Json → Option String
  | .string s => s
  | _ => none

end Json

end PluginRecovery
