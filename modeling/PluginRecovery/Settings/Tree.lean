import PluginRecovery.Decimal.Layout
import PluginRecovery.Decimal.Numeral
import PluginRecovery.Dictionary
import PluginRecovery.Text.LetterCase

/-!
Untyped settings: trees of named values. Sources of settings are laid over each other key by key,
and a value of one kind can be read as another where its text allows it.
-/

set_option autoImplicit false
set_option relaxedAutoImplicit false

namespace PluginRecovery

open PluginRecovery.Text

/-- An untyped setting. -/
inductive Setting where
  | text (s : String)
  | int (n : Int)
  | float (x : Float)
  | bool (b : Bool)
  | null
  | list (items : List Setting)
  | table (entries : List (String × Setting))
  deriving Inhabited

namespace Setting

def nothing : Setting :=
  .table []

/-- The entries of a table; of any other value none. -/
def entries : Setting → List (String × Setting)
  | .table entries => entries
  | _ => []

/-- The entries with `name` sent to `value`, at its place or at the end. -/
def put (name : String) (value : Setting) : List (String × Setting) → List (String × Setting)
  | [] => [(name, value)]
  | (other, old) :: rest =>
    if other = name then (name, value) :: rest else (other, old) :: put name value rest

def valueOf (name : String) (entries : List (String × Setting)) : Setting :=
  (entries.lookup name).getD .null

mutual

/-- The base with the other value laid over it: tables are merged name by name, anything else
replaces what was there. An empty table replaces nothing. -/
def overlaid (base : Setting) : Setting → Setting
  | .table [] =>
    match base with
    | .null => .table []
    | base => base
  | .table (entry :: more) => .table (overlaidEntries base.entries (entry :: more))
  | value => value

/-- Lay the incoming entries over the others, one after the other. -/
def overlaidEntries (base : List (String × Setting)) :
    List (String × Setting) → List (String × Setting)
  | [] => base
  | (name, value) :: rest =>
    overlaidEntries (put name (overlaid (valueOf name base) value) base) rest

end

/-- The base with a value laid over it at a path; what is no table on the way becomes one. -/
def overlaidAt (base : Setting) : List String → Setting → Setting
  | [], value => base.overlaid value
  | name :: path, value =>
    .table (put name (overlaidAt (valueOf name base.entries) path value) base.entries)

/-- A character of a plain name. -/
def isNameChar (c : Char) : Bool :=
  c.isAlphanum || c == '_' || c == '-'

/-- The path that a key spells: plain names with points between them. Any other key is a name by
itself. -/
def pathOf (key : String) : List String :=
  let parts := key.toList.splitOnP (· == '.')
  if parts.all fun part => !part.isEmpty && part.all isNameChar then
    parts.map fun part => String.ofList part
  else [key]

/-- The base with a source of settings laid over it. The source's own names are paths. -/
def overSource (base : Setting) (source : List (String × Setting)) : Setting :=
  source.foldl (fun tree (key, value) => tree.overlaidAt (pathOf key) value) base

/-! ### Reading a value as some kind -/

def wordLimit : Nat := 0x10000000000000000

def lowered (s : String) : String :=
  String.ofList (lower s.toList)

/-- A whole number of digits, which a plus sign may precede, below `wordLimit`. -/
def natural? (text : String) : Option Nat :=
  let digits := match text.toList with
    | '+' :: rest => rest
    | digits => digits
  (Decimal.natural? digits).bind fun n => if n < wordLimit then some n else none

/-- The value as a whole number below `wordLimit`. Fractions are rounded, with the half away from
zero. -/
def asNatural? : Setting → Option Nat
  | .int n => if 0 ≤ n then some n.toNat else none
  | .float x => some x.round.toUInt64.toNat
  | .bool b => some (if b then 1 else 0)
  | .text s =>
    if ["true", "on", "yes"].contains (lowered s) then some 1
    else if ["false", "off", "no"].contains (lowered s) then some 0
    else natural? s
  | _ => none

def asBool? : Setting → Option Bool
  | .bool b => some b
  | .int n => some (n != 0)
  | .float x => some (x != 0.0)
  | .text s =>
    if ["1", "true", "on", "yes"].contains (lowered s) then some true
    else if ["0", "false", "off", "no"].contains (lowered s) then some false
    else none
  | _ => none

def asText? : Setting → Option String
  | .text s => some s
  | .bool b => some (if b then "true" else "false")
  | .int n => some (toString n)
  | .float x => some (Decimal.ofDouble x).plain
  | _ => none

/-- The name of a case: a text, or the one name in a table. -/
def asCase? : Setting → Option String
  | .text s => some s
  | .table [(name, _)] => some name
  | _ => none

end Setting

end PluginRecovery
