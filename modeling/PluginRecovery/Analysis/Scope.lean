import PluginRecovery.Analysis.Field

/-!
A scope says where an analysis looks: it yields the identity of the plugin and the texts that list
works, show details and show chapters, and it finds selectors in such a text.
-/

set_option autoImplicit false
set_option relaxedAutoImplicit false

namespace PluginRecovery

/-- The places that an analysis looks at. A text is `none` when the plugin has no such part. -/
structure Scope where
  identity : Traced Identity
  searchText : Traced (Option (List Char))
  detailsText : Traced (Option (List Char))
  /-- What stands in when there is no text for details. -/
  detailsDefault : DetailsRecipe
  contentText : Traced (Option (List Char))
  selector : Field → List Char → Traced (Attempt String)

def startsWithHttp (url : String) : Bool :=
  "http".toList.isPrefixOf url.toList

end PluginRecovery
