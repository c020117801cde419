import PluginRecovery.Decimal.Numeral
import PluginRecovery.Script.Braces
import PluginRecovery.Script.Value

/-!
Reading literal values out of script text. The kind of a value is told by its first characters;
objects and arrays are split at their commas and read part by part.
-/

set_option autoImplicit false
set_option relaxedAutoImplicit false

namespace PluginRecovery.Script

open PluginRecovery.Text

/-- The text between `first` and `last`, when these are its ends and not one character. -/
def between? (first last : Char) : List Char → Option (List Char)
  | [] => none
  | c :: rest =>
    if c = first ∧ rest.getLast? = some last then some rest.dropLast else none

/-- The text without `first` and `last` at its ends; as it is when it has not both. -/
def stripEnds (first last : Char) (text : List Char) : List Char :=
  (between? first last text).getD text

/-- Each backslash before `letter` taken together with it, from left to right, as `meaning`. -/
def replaceEscape (letter meaning : Char) : List Char → List Char
  | [] => []
  | '\\' :: c :: rest =>
    if c = letter then meaning :: replaceEscape letter meaning rest
    else '\\' :: replaceEscape letter meaning (c :: rest)
  | c :: rest => c :: replaceEscape letter meaning rest
termination_by text => text.length

/-- The escapes of newlines, tabs, double quotes and single quotes, replaced one kind after the
other. -/
def unescape (text : List Char) : List Char :=
  replaceEscape '\'' '\''
    (replaceEscape '"' '"' (replaceEscape 't' '\t' (replaceEscape 'n' '\n' text)))

def contains (part : List Char) : List Char → Bool
  | [] => part.isEmpty
  | c :: rest => part.isPrefixOf (c :: rest) || contains part rest

/-- A text that may be a number: it begins with a digit, a sign or a point, and does not spell one
of the words for numbers that are not finite. -/
def looksNumeric (text : List Char) : Bool :=
  match text with
  | [] => false
  | first :: _ =>
    let lower := text.map Char.toLower
    (first.isDigit || first == '+' || first == '-' || first == '.') &&
      !contains "inf".toList lower && !contains "nan".toList lower

/-- A number: an integer when it fits, else a double. -/
def number? (text : List Char) : Option Value :=
  if looksNumeric text then
    match Decimal.int64? text with
    | some n => some (.int n)
    | none => (Decimal.double? text).map .float
  else none

/-- The words for booleans and for absence. -/
def keyword? (text : List Char) : Option Value :=
  if text = "true".toList then some (.bool true)
  else if text = "false".toList then some (.bool false)
  else if text = "null".toList ∨ text = "undefined".toList then some .null
  else none

/-- What a trimmed text is a literal of. `array` has the texts of the items. -/
inductive Shape where
  | done (value : Value)
  | array (items : List (List Char))
  | object

/-- The text that a quoted literal stands for: the quotes at its ends are dropped, of either kind,
double quotes first. -/
def unquoted (text : List Char) : String :=
  String.ofList (unescape (stripEnds '\'' '\'' (stripEnds '"' '"' text)))

/-- The kind of a trimmed text. -/
def shape (text : List Char) : Shape :=
  match text with
  | '"' :: _ => .done (.str (unquoted text))
  | '\'' :: _ => .done (.str (unquoted text))
  | '`' :: _ => .done (.str (String.ofList (stripEnds '`' '`' text)))
  | _ =>
    match keyword? text with
    | some value => .done value
    | none =>
      match number? text with
      | some value => .done value
      | none =>
        match text with
        | '[' :: _ => .array (splitAtCommas (stripEnds '[' ']' text))
        | '{' :: _ => .object
        | _ =>
          if contains "=>".toList text || "function".toList.isPrefixOf text then .done .function
          else .done (.str (String.ofList text))

/-- The text before the first colon and the text after it. -/
def splitAtColon? (text : List Char) : Option (List Char × List Char) :=
  match text.dropWhile (· ≠ ':') with
  | [] => none
  | _ :: rest => some (text.takeWhile (· ≠ ':'), rest)

/-- The name that a key spells: without white space around it, then without quotes. -/
def keyName (key : List Char) : List Char :=
  let key := trim key
  match between? '"' '"' key with
  | some name => name
  | none => (between? '\'' '\'' key).getD key

/-- The names and the value texts in an object literal. Pieces without a colon or with a blank name
are left out. -/
def entryTexts (text : List Char) : List (String × List Char) :=
  (splitAtCommas (stripEnds '{' '}' (trim text))).filterMap fun piece =>
    match splitAtColon? piece with
    | none => none
    | some (key, value) =>
      let name := keyName key
      if blank name then none else some (String.ofList name, value)

/-- The value of a text. There is none when an array's text has itself as an item, as `[` has: its
reading would never end. -/
def readValue? (text : List Char) : Option Value :=
  match shape (trim text) with
  | .done value => some value
  | .array items =>
    (items.mapM fun (item : List Char) =>
      if item.length < text.length then readValue? item else none).map .array
  | .object =>
    ((entryTexts (trim text)).mapM fun (entry : String × List Char) =>
      if entry.2.length < text.length then (readValue? entry.2).map fun value => (entry.1, value)
      else none).map fun entries => .object (Dictionary.ofEntries entries)
termination_by text.length

/-- The value of a text; `null` stands in where the reading would not end. -/
def readValue (text : List Char) : Value :=
  (readValue? text).getD .null

/-- The properties of an object literal; a later entry replaces an earlier one of its name. -/
def readProperties (text : List Char) : Properties :=
  Dictionary.ofEntries ((entryTexts text).map fun (name, value) => (name, readValue value))

/-- Whether the reading of an object literal comes to an end: that of each of its values does. -/
def propertiesEnd (text : List Char) : Bool :=
  (entryTexts text).all fun entry => (readValue? entry.2).isSome

end PluginRecovery.Script
