import PluginRecovery.Html.Page
import PluginRecovery.Text.Blank
import PluginRecovery.Url.Reference

/-!
A page as it was fetched: its elements, and the address that links in it are relative to.
-/

set_option autoImplicit false
set_option relaxedAutoImplicit false

namespace PluginRecovery

open PluginRecovery.Html PluginRecovery.Text

/-- A page. Without a base only absolute links lead anywhere. -/
structure WebPage where
  document : Document
  base : Option Url

namespace WebPage

/-- The page with a text; a base that is no address is none. -/
def ofText (body base : String) : WebPage where
  document := .ofText body
  base := (Url.read? base).toOption

/-- The text of an element: the words in it, with single spaces between them. The texts in it are
taken one by one, so a word ends where its text does. -/
def elementText (element : Place) : String :=
  " ".intercalate (element.texts.flatMap fun text => (words text.toList).map String.ofList)

def address? (page : WebPage) (link : String) : Option String :=
  match Url.read? link with
  | .ok url => some url.text
  | .error _ => (page.base.bind fun base => (base.join link).toOption).map Url.text

/-- The address that an attribute of an element names; none when it is blank. -/
def addressIn? (page : WebPage) (element : Place) (label : String) : Option String :=
  (element.attribute? label).bind fun value =>
    let link := trim value.toList
    if link.isEmpty then none else page.address? (String.ofList link)

def linkOf? (page : WebPage) (element : Place) : Option String :=
  page.addressIn? element "href"

/-- The address of an image, which may be given for later. -/
def imageOf? (page : WebPage) (element : Place) : Option String :=
  page.addressIn? element "src" <|> page.addressIn? element "data-src"

end WebPage

def nonBlank? (text : String) : Option String :=
  if blank text.toList then none else some text

end PluginRecovery
