import PluginRecovery.Json.Reader
import PluginRecovery.Settings.Basic
import PluginRecovery.Settings.Toml

/-!
Where settings come from. Later sources are laid over earlier ones: defaults, a file, the
environment, and the command line.
-/

set_option autoImplicit false
set_option relaxedAutoImplicit false

namespace PluginRecovery

open PluginRecovery.Text

/-- What is at a path: nothing, a folder or another thing without a text, or a file. -/
inductive PathContents where
  | nothing
  | unreadable
  | file (text : String)
  deriving DecidableEq, Repr

abbrev Environment := List (String × String)

namespace Settings

/-- The entries with one value for each name, the last. -/
def lastOfEach (entries : List (String × Setting)) : List (String × Setting) :=
  entries.foldl (fun kept (name, value) => Setting.put name value kept) []

mutual

/-- A JSON value as a setting. Numbers that are no whole numbers of 64 bits are fractions. -/
def settingOfJson? : Json → Option Setting
  | .null => some .null
  | .bool b => some (.bool b)
  | .number literal =>
    match Decimal.int64? literal.toList with
    | some n => some (.int n)
    | none => (Decimal.double? literal.toList).map .float
  | .string s => s.map .text
  | .array items => (settingsOfItems? items).map .list
  | .object members => (settingsOfMembers? members).map fun entries => .table (lastOfEach entries)

def settingsOfItems? : List Json → Option (List Setting)
  | [] => some []
  | item :: rest =>
    match settingOfJson? item, settingsOfItems? rest with
    | some item, some rest => some (item :: rest)
    | _, _ => none

def settingsOfMembers? : List (Option String × Json) → Option (List (String × Setting))
  | [] => some []
  | (name, value) :: rest =>
    match name, settingOfJson? value, settingsOfMembers? rest with
    | some name, some value, some rest => some ((name, value) :: rest)
    | _, _, _ => none

end

/-- The names and values at the top of a JSON text. -/
def readJson? (text : List Char) : Option (List (String × Setting)) :=
  match (Json.read? text).bind settingOfJson? with
  | some (.table entries) => some entries
  | _ => none

/-- What follows the last point of a path's last part, unless that point begins the part. -/
def extension? (path : String) : Option String :=
  let name := path.toList.reverse.takeWhile (· != '/')
  match name.dropWhile (· != '.') with
  | _ :: _ :: _ => some (String.ofList (name.takeWhile (· != '.')).reverse)
  | _ => none

/-- The settings in a file. Its extension tells the format. -/
def ofFile (path : String) (contents : PathContents) :
    Except SettingsError (List (String × Setting)) :=
  match contents with
  | .nothing => .error (.fileNotFound path)
  | .unreadable => .error (.unreadable (path ++ " is no readable file"))
  | .file text =>
    match extension? path with
    | some "toml" =>
      match Toml.read? text.toList with
      | some entries => .ok entries
      | none => .error (.unreadable (path ++ " is no TOML document"))
    | some "json" =>
      match readJson? text.toList with
      | some entries => .ok entries
      | none => .error (.unreadable (path ++ " is no JSON object"))
    | _ => .error (.unreadable (path ++ " is not in a known format"))

/-- A number as the environment may spell it; the words for infinity and for no number count. -/
def environmentFloat? (text : List Char) : Option Float :=
  let (negative, unsigned) := Decimal.splitSign text
  let word := unsigned.map Char.toLower
  if word = "inf".toList ∨ word = "infinity".toList then
    some (if negative then -(1.0 / 0.0) else 1.0 / 0.0)
  else if word = "nan".toList then some (0.0 / 0.0)
  else Decimal.double? text

/-- The value of a variable: a boolean or a number where it reads as one. -/
def variableValue (text : String) : Setting :=
  if Setting.lowered text = "true" then .bool true
  else if Setting.lowered text = "false" then .bool false
  else
    match Decimal.int64? text.toList with
    | some n => .int n
    | none =>
      match environmentFloat? text.toList with
      | some x => .float x
      | none => .text text

/-- The text with each double underscore, from left to right, as a point. -/
def pointsForUnderscores : List Char → List Char
  | '_' :: '_' :: rest => '.' :: pointsForUnderscores rest
  | c :: rest => c :: pointsForUnderscores rest
  | [] => []

/-- What the names of our variables begin with, in lower case. -/
def variableMark : List Char :=
  "jsconv__".toList

/-- The key of a variable, if its name has our mark. -/
def variableKey? (name : String) : Option String :=
  let chars := name.toList
  if variableMark.isPrefixOf (lower chars) then
    some (String.ofList (lower (pointsForUnderscores (chars.drop variableMark.length))))
  else none

def ofEnvironment (env : Environment) : List (String × Setting) :=
  env.filterMap fun (name, value) =>
    (variableKey? name).map fun key => (key, variableValue value)

/-- What the command line sets. -/
structure Overrides where
  level : Option String := none
  strategy : Option Strategy := none
  deriving DecidableEq, Repr

def Overrides.source (o : Overrides) : List (String × Setting) :=
  (o.level.map fun level => ("logging.level", Setting.text level)).toList ++
    (o.strategy.map fun s => ("analyzer.strategy", Setting.text s.name)).toList

/-- The settings by all sources. The file is given by its path and what is there. -/
def load (file : Option (String × PathContents)) (env : Environment) (overrides : Overrides) :
    Except SettingsError Settings := do
  let fromFile ← match file with
    | none => pure []
    | some (path, contents) => ofFile path contents
  ofTree (((defaults.overSource fromFile).overSource (ofEnvironment env)).overSource
    overrides.source)

/-- The settings by a file alone. -/
def loadFile (path : String) (contents : PathContents) : Except SettingsError Settings := do
  ofTree (defaults.overSource (← ofFile path contents))

end Settings

end PluginRecovery
