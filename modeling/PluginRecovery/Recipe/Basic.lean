import PluginRecovery.Text.Blank
import PluginRecovery.Text.LetterCase

/-!
What an analysis recovers from a plugin: who it is, and where on a site's pages its works, their
details and their chapters stand. Selectors are lists of candidates separated by commas.
-/

set_option autoImplicit false
set_option relaxedAutoImplicit false

namespace PluginRecovery

open PluginRecovery.Text

structure Identity where
  name : String
  version : String
  lang : String
  baseUrl : String
  icon : String
  id : Option String
  deriving DecidableEq, Repr

/-- How to list works. The template has places for the query and the page. -/
structure SearchRecipe where
  urlTemplate : String
  item : String
  title : String
  link : String
  cover : Option String
  deriving DecidableEq, Repr

/-- Where the details of a work and its chapters stand on its page. -/
structure DetailsRecipe where
  author : Option String
  description : Option String
  genres : Option String
  status : Option String
  cover : Option String
  chapters : Option String
  chapterName : Option String
  chapterUrl : Option String
  deriving DecidableEq, Repr

/-- Where the text of a chapter stands, and what separates its blocks. -/
structure ContentRecipe where
  selector : String
  textJoin : String
  deriving DecidableEq, Repr

/-- All that is known about a plugin. Without `search` it can neither browse nor search. -/
structure Recipe where
  identity : Identity
  search : Option SearchRecipe
  details : Option DetailsRecipe
  content : Option ContentRecipe
  deriving DecidableEq, Repr

/-! ### What is assumed when nothing is found -/

namespace Default

def name : String := "Unknown Plugin"

def version : String := "1.0.0"

def lang : String := "en"

def urlTemplate : String := "/search?q=$\x7bquery\x7d&page=$\x7bpage\x7d"

def item : String := ".novel-item, .book-item, .manga-item, .series-item, .item, .post, article"

def title : String := ".title, h3, h2, h1, .name, .book-title"

def link : String := "a, .link"

def author : String := ".author, .writer, .author-name"

def description : String := ".description, .summary, .synopsis, .about"

def genres : String := ".genre, .tag, .category, .genres"

def status : String := ".status, .book-status"

def chapters : String := ".chapter, .chapter-item, .episode, li.chapter"

/-- Without a content function. -/
def content : String := ".content, .chapter-content, #content, .text"

/-- With a content function that names no selector. -/
def contentInFunction : String := ".content, .chapter-content, #content, .text, p"

def textJoin : String := "\n\n"

end Default

/-! ### Identities -/

namespace Identity

/-- The word with its first character in upper case. -/
def capitalize : List Char → List Char
  | [] => []
  | c :: rest => upperForm c ++ rest

/-- The name that an id suggests: its parts between points, hyphens and underscores, each
capitalized, with spaces between them. -/
def nameFromId (id : String) : String :=
  let parts := id.toList.splitOnP fun c => c == '.' || c == '-' || c == '_'
  String.ofList ((parts.map capitalize).intersperse [' '] |>.flatten)

/-- A version is made of ASCII digits and points. -/
def isVersion (version : String) : Bool :=
  !version.toList.isEmpty && version.toList.all fun c => c.isDigit || c == '.'

/-- The tag of a language has two to five characters. -/
def isLang (lang : String) : Bool :=
  2 ≤ lang.toList.length && lang.toList.length ≤ 5

end Identity

namespace DetailsRecipe

def none : DetailsRecipe :=
  ⟨.none, .none, .none, .none, .none, .none, .none, .none⟩

def generic : DetailsRecipe where
  author := some Default.author
  description := some Default.description
  genres := some Default.genres
  status := some Default.status
  cover := .none
  chapters := some Default.chapters
  chapterName := .none
  chapterUrl := .none

/-- Whether there is a selector for one of the details of the work itself. -/
def hasDetails (d : DetailsRecipe) : Bool :=
  d.author.isSome || d.description.isSome || d.genres.isSome || d.status.isSome || d.cover.isSome

end DetailsRecipe

/-- What most sites use for the text of a chapter. -/
def ContentRecipe.generic : ContentRecipe :=
  ⟨Default.content, Default.textJoin⟩

end PluginRecovery
