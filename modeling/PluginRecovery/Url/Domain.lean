import PluginRecovery.Url.Domain.Label
import PluginRecovery.Url.Punycode

/-!
Names of hosts, brought into one form within ASCII. A label beyond ASCII is encoded.
-/

set_option autoImplicit false
set_option relaxedAutoImplicit false

namespace PluginRecovery.Domain

open PluginRecovery.Text

/-- What no name holds. -/
def isForbidden (c : Char) : Bool :=
  c ≤ ' ' || c == '\x7f' ||
    ['#', '%', '/', ':', '<', '>', '?', '@', '[', '\\', ']', '^', '|'].contains c

/-- The form of a label within ASCII. -/
def asciiLabel (label : List Char) : List Char :=
  if label.all (·.toNat < 128) then label else encodedMark ++ Punycode.encode label

/-- The label that a label within ASCII stands for, if it stands for one. -/
def meaning? (label : List Char) : Option (List Char) :=
  if encodedMark.isPrefixOf label then
    (Punycode.decode? (label.drop encodedMark.length)).filter isLabel
  else some label

/-- Labels within ASCII that make a name. -/
def isName (labels : List (List Char)) : Bool :=
  !labels.any (·.any isForbidden) && (labels.mapM meaning?).any directionsFit

/-- The form of a name within ASCII. -/
def ascii? (name : List Char) : Option (List Char) := do
  let forms ← name.mapM formOf?
  let labels := ((compose forms.flatten).splitOn '.').map asciiLabel
  if isName labels then some (List.intercalate ['.'] labels) else none

end PluginRecovery.Domain
