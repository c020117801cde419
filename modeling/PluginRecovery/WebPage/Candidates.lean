import PluginRecovery.Css.Matching
import PluginRecovery.Css.Reader
import PluginRecovery.WebPage.Basic

/-!
Looking on a page for what a list of candidates means. Candidates are selectors with commas between
them; they are tried one by one, and what the first fruitful one finds is the answer. A candidate
that is no selector finds nothing.
-/

set_option autoImplicit false
set_option relaxedAutoImplicit false

namespace PluginRecovery

open PluginRecovery.Html PluginRecovery.Text

/-- The candidates of a list: the parts between commas, without the blank ones. -/
def candidates (selectors : String) : List String :=
  (((selectors.toList.splitOn ',').map trim).filter (!·.isEmpty)).map String.ofList

/-- The first value that a candidate of a list yields. -/
def firstYield {α : Type} (selectors : String) (yield? : String → Option α) : Option α :=
  (candidates selectors).findSome? yield?

/-- The elements below an element that a candidate means, in order. -/
def matchingBelow (element : Place) (candidate : String) : List Place :=
  ((Css.Selector.list? candidate).map (Css.selectBelow element)).getD []

/-- What `extract` makes of an element below another: for each candidate the first one counts. -/
def findWithin {α : Type} (element : Place) (selectors : String) (extract : Place → Option α) :
    Option α :=
  firstYield selectors fun candidate => (matchingBelow element candidate).head?.bind extract

namespace WebPage

def matching (page : WebPage) (candidate : String) : List Place :=
  ((Css.Selector.list? candidate).map (Css.selectIn page.document)).getD []

/-- The elements that the first candidate with any means. -/
def select (page : WebPage) (selectors : String) : List Place :=
  (firstYield selectors fun candidate =>
    some (page.matching candidate) |>.filter (!·.isEmpty)).getD []

/-- The first text, of the first element of a candidate, that is not blank. -/
def firstText? (page : WebPage) (selectors : String) : Option String :=
  firstYield selectors fun candidate =>
    ((page.matching candidate).head?.map elementText).filter (!·.isEmpty)

/-- The texts of all elements of the first candidate with any, without the blank ones. -/
def allTexts? (page : WebPage) (selectors : String) : Option (List String) :=
  firstYield selectors fun candidate =>
    match page.matching candidate with
    | [] => none
    | elements => some ((elements.map elementText).filter (!·.isEmpty))

/-- The first address of an image, of the first element of a candidate. -/
def firstImage? (page : WebPage) (selectors : String) : Option String :=
  firstYield selectors fun candidate => (page.matching candidate).head?.bind page.imageOf?

def bodyText (page : WebPage) : String :=
  ((page.matching "body").head?.map elementText).getD ""

end WebPage

end PluginRecovery
