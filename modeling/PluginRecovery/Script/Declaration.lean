import PluginRecovery.Pattern.Search
import PluginRecovery.Script.Literal

/-!
The functions that a script declares. Four forms of declaration are looked for in the whole text,
one form after the other, and a later declaration replaces an earlier one of its name.
-/

set_option autoImplicit false
set_option relaxedAutoImplicit false

namespace PluginRecovery.Script

open PluginRecovery.Text PluginRecovery.Pattern

/-- A declared function. `start` is where the declaration begins, `stop` where its body's closing
brace stands; without a closing brace the body is empty. -/
structure Declaration where
  name : String
  params : List String
  body : String
  isAsync : Bool
  start : Nat
  stop : Option Nat
  deriving DecidableEq

/-- A way to write a declaration: a pattern with three groups, of which the last holds the
parameters. -/
structure DeclarationForm where
  pattern : Pattern
  nameGroup : Nat
  asyncGroup : Nat

/-- The word that makes a function asynchronous, kept as a group. -/
def asyncMark (number : Nat) : Pattern :=
  optional (group number ("async" ++ blanks))

/-- A parameter list in parentheses, kept as group 3. -/
def paramList : Pattern :=
  "(" ++ group 3 (anyNumber (· != ')')) ++ ")"

/-- A brace that opens a body, after white space. -/
def openBody : Pattern :=
  gap ++ "\x7b"

/-- `async function name(…) {…`, the first word optional. -/
def functionForm : DeclarationForm :=
  ⟨asyncMark 1 ++ "function" ++ blanks ++ group 2 word ++ gap ++ paramList ++ openBody, 2, 1⟩

/-- `name: async function (…) {…` -/
def functionPropertyForm : DeclarationForm :=
  ⟨group 1 word ++ gap ++ ":" ++ gap ++ asyncMark 2 ++ "function" ++ gap ++ paramList ++ openBody,
    1, 2⟩

/-- `async name(…) {…` -/
def methodForm : DeclarationForm :=
  ⟨asyncMark 1 ++ group 2 word ++ gap ++ paramList ++ openBody, 2, 1⟩

/-- `name: async (…) => {…` -/
def arrowPropertyForm : DeclarationForm :=
  ⟨group 1 word ++ gap ++ ":" ++ gap ++ asyncMark 2 ++ paramList ++ gap ++ "=>" ++ openBody, 1, 2⟩

/-- The forms, in the order in which they are looked for. -/
def declarationForms : List DeclarationForm :=
  [functionForm, functionPropertyForm, methodForm, arrowPropertyForm]

def splitOnComma (text : List Char) : List (List Char) :=
  text.splitOnP (· == ',')

/-- The parameters: the parts, trimmed and not blank, of the last group that holds a comma or is
blank. A lone parameter has no comma, so that it does not count. -/
def paramsOf (groups : List (List Char)) : List String :=
  match (groups.filter fun text => text.contains ',' || blank text).getLast? with
  | none => []
  | some text =>
    (((splitOnComma text).map trim).filter (!·.isEmpty)).map fun param => String.ofList param

/-- The declaration that a match of a form stands for; none when its name is `async`. -/
def DeclarationForm.declaration? (form : DeclarationForm) (code : List Char) (found : Match) :
    Option Declaration :=
  let name := found.groupText form.nameGroup
  if name.isEmpty || name == "async".toList then none
  else
    let bodyStart := found.whole.stop.offset
    let stop := closingBrace? (bytes code) bodyStart
    some {
      name := String.ofList name
      params := paramsOf ([1, 2, 3].map found.groupText)
      body := String.ofList ((stop.map fun stop => slice code bodyStart stop).getD [])
      isAsync := (found.group? form.asyncGroup).isSome
      start := found.whole.start.offset
      stop := stop }

/-- The declarations of all forms, form by form and in a form from left to right. -/
def allDeclarations (code : List Char) : List Declaration :=
  declarationForms.flatMap fun form =>
    (form.pattern.searchAll code).filterMap (form.declaration? code)

/-- The declared functions by name. -/
def declarations (code : List Char) : Dictionary Declaration :=
  Dictionary.ofEntries ((allDeclarations code).map fun d => (d.name, d))

end PluginRecovery.Script
