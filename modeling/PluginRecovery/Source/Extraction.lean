import PluginRecovery.Recipe.Basic
import PluginRecovery.Source.Work
import PluginRecovery.WebPage.Candidates

/-!
What a recipe finds on a page: the works of a listing, the details and chapters of a work, and the
text of a chapter.
-/

set_option autoImplicit false
set_option relaxedAutoImplicit false

namespace PluginRecovery

open PluginRecovery.Html PluginRecovery.Text

namespace SearchRecipe

/-- The work that an item of a listing shows; it needs an address and a title. -/
def work? (recipe : SearchRecipe) (page : WebPage) (item : Place) : Option Work := do
  let key ← findWithin item recipe.link page.linkOf? <|> page.linkOf? item
  let textOf (element : Place) : Option String := nonBlank? (WebPage.elementText element)
  let title ← findWithin item recipe.title textOf <|> textOf item
  let cover := (recipe.cover.bind fun selectors => findWithin item selectors page.imageOf?) <|>
    findWithin item "img" page.imageOf?
  return { key, title, cover := cover.getD "" }

/-- The works of a listing, in the order of their items. -/
def works (recipe : SearchRecipe) (page : WebPage) : List Work :=
  (page.select recipe.item).filterMap (recipe.work? page)

end SearchRecipe

namespace DetailsRecipe

/-- A work with the details that a page shows; the others stay. -/
def enrich (recipe : DetailsRecipe) (page : WebPage) (work : Work) : Work :=
  { work with
    author := (recipe.author.bind page.firstText?).getD work.author
    description := (recipe.description.bind page.firstText?).getD work.description
    genres := (recipe.genres.bind page.allTexts?).getD work.genres
    status := ((recipe.status.bind page.firstText?).map Status.ofText).getD work.status
    cover := (recipe.cover.bind page.firstImage?).getD work.cover }

/-- The name of a chapter at a position: from its name selector, its first link, its own text, or
its number. -/
def chapterTitle (recipe : DetailsRecipe) (item : Place) (number : Nat) : String :=
  let textOf (element : Place) : Option String := nonBlank? (WebPage.elementText element)
  let named := (recipe.chapterName.bind fun selectors => findWithin item selectors textOf) <|>
    findWithin item "a" textOf <|> textOf item
  named.getD ("Chapter " ++ toString number)

/-- The chapter that an item at a position shows; it needs an address. -/
def chapter? (recipe : DetailsRecipe) (page : WebPage) (item : Place) (number : Nat) :
    Option Chapter := do
  let key ← findWithin item (recipe.chapterUrl.getD "a") page.linkOf? <|> page.linkOf? item
  return { key, name := recipe.chapterTitle item number, number := Decimal.singleOfNat number }

/-- The chapters whose items `selectors` means, each with the position of its item among them,
counted from one. -/
def chapterList (recipe : DetailsRecipe) (page : WebPage) (selectors : String) : List Chapter :=
  (page.select selectors).zipIdx.filterMap fun (item, index) =>
    recipe.chapter? page item (index + 1)

end DetailsRecipe

namespace ContentRecipe

/-- The text of a chapter: its blocks joined, or the whole body when there are none. -/
def text (recipe : ContentRecipe) (page : WebPage) : String :=
  match page.select recipe.selector with
  | [] => page.bodyText
  | blocks =>
    String.ofList (trim
      (recipe.textJoin.intercalate (blocks.map WebPage.elementText)).toList)

/-- The pages of a chapter: one with its text, or none when there is no text. -/
def pages (recipe : ContentRecipe) (page : WebPage) : List Page :=
  let text := recipe.text page
  if text.isEmpty then [] else [⟨text⟩]

end ContentRecipe

end PluginRecovery
