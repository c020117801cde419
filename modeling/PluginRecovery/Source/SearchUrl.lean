import PluginRecovery.Text.Percent
import PluginRecovery.Text.Replace

/-!
The address of a search, from a template with places for the site, the query and the page.
-/

set_option autoImplicit false
set_option relaxedAutoImplicit false

namespace PluginRecovery

open PluginRecovery.Text

/-- A name in braces after a dollar sign. -/
def bracedPlace (name : String) : String :=
  "$\x7b" ++ name ++ "\x7d"

/-- The places of a template with what they are filled with, in the order in which they are. -/
def templatePlaces (site query page : List Char) : List (List Char × List Char) := [
  ((bracedPlace "this.site").toList, site),
  ((bracedPlace "this.baseUrl").toList, site),
  ((bracedPlace "query").toList, query),
  ((bracedPlace "page").toList, page),
  ("$query".toList, query),
  ("$page".toList, page)]

/-- A text with its places filled one after the other. -/
def fillPlaces (places : List (List Char × List Char)) (text : List Char) : List Char :=
  places.foldl (fun filled place => replaceAll place.1 place.2 filled) text

/-- The address of a page of a search. The query is percent encoded. -/
def searchUrl (template site query : String) (page : Nat) : String :=
  String.ofList (fillPlaces
    (templatePlaces site.toList (percentEncode isUnreserved query.toList) (toString page).toList)
    template.toList)

end PluginRecovery
