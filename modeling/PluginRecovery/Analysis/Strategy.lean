import PluginRecovery.Json.Fields

/-!
How an analysis chooses the places that it looks at.
-/

set_option autoImplicit false
set_option relaxedAutoImplicit false

namespace PluginRecovery

/-- The whole text, the functions, or the functions if there is a metadata object and else the whole
text. -/
inductive Strategy where
  | regex
  | structural
  | auto
  deriving DecidableEq, Repr

namespace Strategy

def name : Strategy → String
  | regex => "regex"
  | structural => "structural"
  | auto => "auto"

def all : List Strategy :=
  [regex, structural, auto]

def ofName? (name : String) : Option Strategy :=
  all.find? fun strategy => strategy.name == name

def toJson (s : Strategy) : Json :=
  .text s.name

def ofJson? (j : Json) : Option Strategy :=
  j.caseName?.bind ofName?

end Strategy

end PluginRecovery
