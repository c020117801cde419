import PluginRecovery.Text.Blank

/-!
Replacing every occurrence of one text in another, from left to right.
-/

set_option autoImplicit false
set_option relaxedAutoImplicit false

namespace PluginRecovery.Text

/-- Replace occurrences of `part`, leaving out the first `skip` characters: they belong to an
occurrence that is replaced already. -/
def replaceFrom (part new : List Char) : (skip : Nat) → List Char → List Char
  | _, [] => []
  | skip + 1, _ :: rest => replaceFrom part new skip rest
  | 0, c :: rest =>
    if part.isPrefixOf (c :: rest) then new ++ replaceFrom part new (part.length - 1) rest
    else c :: replaceFrom part new 0 rest

/-- A text with `new` in the place of every occurrence of `part`, which is not empty. -/
def replaceAll (part new text : List Char) : List Char :=
  replaceFrom part new 0 text

end PluginRecovery.Text
