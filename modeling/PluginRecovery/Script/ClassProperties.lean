import PluginRecovery.Pattern.Search
import PluginRecovery.Script.Literal

/-!
The properties that the first class of a script gives itself, by assignments to `this` or by
getters.
-/

set_option autoImplicit false
set_option relaxedAutoImplicit false

namespace PluginRecovery.Script

open PluginRecovery.Text PluginRecovery.Pattern

/-- A class from its name to the first closing brace, which leaves its body's beginning in
group 2. -/
def classBlock : Pattern :=
  "class" ++ blanks ++ group 1 word ++ many (fun _ => true) 0 none false ++ "\x7b" ++
    group 2 (many (fun _ => true) 1 none false) ++ "\x7d"

/-- `this.name = value;` -/
def thisAssignment : Pattern :=
  "this." ++ group 1 word ++ gap ++ "=" ++ gap ++ group 2 (oneOrMore (· != ';')) ++ ";"

/-- `get name() { return value;` -/
def getterReturn : Pattern :=
  "get" ++ blanks ++ group 1 word ++ gap ++ "(" ++ gap ++ ")" ++ gap ++ "\x7b" ++ gap ++
    "return" ++ blanks ++ group 2 (oneOrMore (· != ';')) ++ ";"

/-- The names and the value texts that a pattern finds. -/
def assignments (p : Pattern) (body : List Char) : List (String × List Char) :=
  (p.searchAll body).map fun found =>
    (String.ofList (found.groupText 1), found.groupText 2)

/-- The names and the value texts of the first class: of its assignments, then of its getters. -/
def classAssignments (code : List Char) : List (String × List Char) :=
  match classBlock.search? code with
  | none => []
  | some found =>
    let body := found.groupText 2
    assignments thisAssignment body ++ assignments getterReturn body

/-- The properties of the first class. Getters replace assignments, later ones earlier ones. -/
def classProperties (code : List Char) : Properties :=
  Dictionary.ofEntries
    ((classAssignments code).map fun (name, value) => (name, readValue value))

/-- Whether the readings of the values in the first class come to an end. -/
def classPropertiesEnd (code : List Char) : Bool :=
  (classAssignments code).all fun entry => (readValue? entry.2).isSome

end PluginRecovery.Script
