import PluginRecovery.Analysis.Analyzer
import PluginRecovery.Failure
import PluginRecovery.Script.Comments
import PluginRecovery.Source.Extraction
import PluginRecovery.Source.SearchUrl

/-!
A content source that works by a recipe. Every operation fetches one page at most, and a page that
cannot be fetched yields nothing.
-/

set_option autoImplicit false
set_option relaxedAutoImplicit false

namespace PluginRecovery

open PluginRecovery.Text

/-- How the text of the page at an address is got. -/
abbrev Fetch (m : Type → Type) := String → m (Except Failure String)

structure Source where
  recipe : Recipe
  deriving DecidableEq, Repr

namespace Source

/-- The source that a script describes. A script without code describes none. -/
def ofScript (origin : String) (strategy : Strategy) (source : String) : Except Failure Source :=
  if blank (Script.stripComments source.toList) then .error (.emptySource origin)
  else .ok ⟨(strategy.analyze source.toList).value⟩

/-- The source that a script describes, or why it describes none. There is neither when the script
has code and the analysis of it does not come to an end. -/
def ofScript? (origin : String) (strategy : Strategy) (source : String) :
    Option (Except Failure Source) :=
  if blank (Script.stripComments source.toList) then some (.error (.emptySource origin))
  else (strategy.analyze? source.toList).map fun traced => .ok ⟨traced.value⟩

def baseUrl (source : Source) : String :=
  source.recipe.identity.baseUrl

def canSearch (source : Source) : Bool :=
  source.recipe.search.isSome

def filters : List Filter := [⟨""⟩]

/-- The address to fetch for a link: itself when it is absolute, however it is written, else the one
that it names relative to the site. -/
def resolve (source : Source) (link : String) : Except UrlError String :=
  match Url.read? link with
  | .ok _ => .ok link
  | .error .relativeWithoutBase => do
    let base ← Url.read? source.baseUrl
    return (← base.join link).text
  | .error error => .error error

section Operations

variable {m : Type → Type} [Monad m]

/-- The page at a link. -/
def page (source : Source) (fetch : Fetch m) (link : String) : m (Except Failure WebPage) :=
  match source.resolve link with
  | .error error => return .error (.address error)
  | .ok url => return (← fetch url).map (WebPage.ofText · source.baseUrl)

/-- What a page at a link shows; `otherwise` when it cannot be fetched. -/
def fromPage {α : Type} (source : Source) (fetch : Fetch m) (link : String) (otherwise : α)
    (read : WebPage → α) : m α :=
  return match ← source.page fetch link with
    | .ok page => read page
    | .error _ => otherwise

/-- Search for works. Another page may follow one that shows any. -/
def search (source : Source) (fetch : Fetch m) (filters : List Filter) (number : Nat) :
    m WorkPage :=
  match source.recipe.search with
  | none => return .empty
  | some recipe =>
    let url := searchUrl recipe.urlTemplate source.baseUrl (Filter.query filters) number
    source.fromPage fetch url .empty fun page =>
      let works := recipe.works page
      ⟨works, !works.isEmpty⟩

/-- List works; all listings are the search for nothing. -/
def list (source : Source) (fetch : Fetch m) (_listing : Option Listing) (number : Nat) :
    m WorkPage :=
  source.search fetch [] number

/-- The recipe for details, when it names any. -/
def detailsRecipe? (source : Source) : Option DetailsRecipe :=
  source.recipe.details.filter DetailsRecipe.hasDetails

/-- A work with the details that its page shows. -/
def details (source : Source) (fetch : Fetch m) (work : Work) : m Work :=
  match source.detailsRecipe? with
  | none => return work
  | some recipe => source.fromPage fetch work.key work fun page => recipe.enrich page work

def chapters (source : Source) (fetch : Fetch m) (work : Work) : m (List Chapter) :=
  match source.recipe.details with
  | none => return []
  | some recipe =>
    match recipe.chapters with
    | none => return []
    | some selectors =>
      source.fromPage fetch work.key [] fun page => recipe.chapterList page selectors

def pages (source : Source) (fetch : Fetch m) (chapter : Chapter) : m (List Page) :=
  match source.recipe.content with
  | none => return []
  | some recipe => source.fromPage fetch chapter.key [] recipe.pages

end Operations

end Source

end PluginRecovery
