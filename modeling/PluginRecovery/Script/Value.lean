import PluginRecovery.Decimal.Layout
import PluginRecovery.Dictionary
import PluginRecovery.Json.Printer

/-!
The literal values that a plugin script holds, and three texts of them: the one that fills a text
field, the one that is displayed, and JSON.
-/

set_option autoImplicit false
set_option relaxedAutoImplicit false

namespace PluginRecovery.Script

/-- A literal value. `null` stands for both kinds of absence, `function` for any function, whose
body is not kept. The entries of an object are in the order of their names. -/
inductive Value where
  | str (text : String)
  | int (n : Int)
  | float (x : Float)
  | bool (b : Bool)
  | null
  | object (entries : List (String × Value))
  | array (items : List Value)
  | function
  deriving Inhabited

abbrev Properties := Dictionary Value

namespace Value

mutual

/-- The value as JSON. A number that is not finite becomes `null`, a function its name. -/
def toJson : Value → Json
  | .str s => .text s
  | .int n => .int n
  | .float x =>
    match (Decimal.ofDouble x).json? with
    | some literal => .number literal
    | none => .null
  | .bool b => .bool b
  | .null => .null
  | .object entries => .object (entriesToJson entries)
  | .array items => .array (itemsToJson items)
  | .function => .text "function"

def itemsToJson : List Value → List Json
  | [] => []
  | v :: rest => toJson v :: itemsToJson rest

def entriesToJson : List (String × Value) → List (Option String × Json)
  | [] => []
  | (name, v) :: rest => (some name, toJson v) :: entriesToJson rest

end

/-- The displayed text: strings and numbers plainly, `null` as nothing, arrays and objects as
JSON. -/
def display : Value → String
  | .str s => s
  | .int n => toString n
  | .float x => (Decimal.ofDouble x).plain
  | .bool b => if b then "true" else "false"
  | .null => ""
  | .function => "function"
  | .object entries => (Value.object entries).toJson.compact
  | .array items => (Value.array items).toJson.compact

/-- The text that a property gives to a text field: for an object that of its entry `value`. -/
def text : Value → String
  | .object entries => ((entries.lookup "value").map display).getD ""
  | v => v.display

def str? : Value → Option String
  | .str s => some s
  | _ => none

end Value

end PluginRecovery.Script
