import PluginRecovery.Recipe.Basic
import PluginRecovery.Script.Literal
import PluginRecovery.Trace.Chain

/-!
The selectors that an analysis looks for: the words that a selector of each kind contains, the calls
that it is written in, and what stands in for it.
-/

set_option autoImplicit false
set_option relaxedAutoImplicit false

namespace PluginRecovery

open PluginRecovery.Text PluginRecovery.Pattern

/-- A single or a double quote. -/
def isQuoteMark (c : Char) : Bool :=
  c == '\'' || c == '"'

def quoteMark : Pattern :=
  one isQuoteMark

/-- A quoted text, kept as group `number`. It may be closed by the other quote. -/
def quotedText (number : Nat) : Pattern :=
  quoteMark ++ group number (oneOrMore (!isQuoteMark ·)) ++ quoteMark

/-- Characters that are no quotes. -/
def unquoted : Pattern :=
  anyNumber (!isQuoteMark ·)

/-- The calls that take a selector. -/
inductive CallForm where
  | dollar
  | select
  | find
  | querySelector
  | querySelectorAll
  deriving DecidableEq

namespace CallForm

def label : CallForm → String
  | dollar => "dollar-call"
  | select => "select-call"
  | find => "find-call"
  | querySelector => "query-selector"
  | querySelectorAll => "query-selector-all"

/-- What stands before the parenthesis. -/
def callee : CallForm → String
  | dollar => "$"
  | select => ".select"
  | find => ".find"
  | querySelector => ".querySelector"
  | querySelectorAll => ".querySelectorAll"

/-- The callee as it is written in a regular expression. -/
def escapedCallee (form : CallForm) : String :=
  "\\" ++ form.callee

end CallForm

/-- A selector that is looked for. -/
structure Field where
  name : String
  /-- In lower case. -/
  keywords : List String
  /-- The forms that are tried before the calls. -/
  forms : List Form
  calls : List CallForm
  default : Option String
  accepts : String → Bool

namespace Field

/-- Whether the candidate contains one of the keywords, in any case. -/
def matchesKeyword (field : Field) (candidate : String) : Bool :=
  let lowered := lower candidate.toList
  field.keywords.any fun keyword => Script.contains keyword.toList lowered

/-- A call of the given form, in any case, whose one argument contains a keyword. -/
def anchoredCall (keywords : List String) (form : CallForm) : Form where
  label := form.label
  pattern := anyCase form.callee ++ "(" ++ quoteMark ++
    group 1 (unquoted ++ firstOf (keywords.map anyCase) ++ unquoted) ++ quoteMark ++ ")"

/-- The forms that find the field in a whole script. -/
def anchoredForms (field : Field) : List Form :=
  field.forms ++ field.calls.map (anchoredCall field.keywords)

def anyCandidate (_ : String) : Bool :=
  true

/-- More than a bare word: with a hyphen, a point or a hash. -/
def hasSelectorMark (candidate : String) : Bool :=
  candidate.toList.any fun c => c == '-' || c == '.' || c == '#'

/-- The words that items of a listing are called by. -/
def itemWords : List String :=
  ["novel", "book", "manga", "series", "story", "item", "entry", "post", "article"]

def searchItem : Field where
  name := "search.selector"
  keywords := itemWords
  forms := [
    ⟨"dollar-iterate", "$(" ++ quotedText 1 ++ ")." ++ firstOf ["map", "each", "find"]⟩,
    ⟨"select-call", ".select(" ++ quotedText 1 ++ ")"⟩,
    ⟨"listing-keyword",
      quoteMark ++ group 1 (unquoted ++ firstOf (itemWords.map literal) ++ unquoted) ++
        quoteMark ++ ")"⟩]
  calls := []
  default := some Default.item
  accepts := hasSelectorMark

def searchTitle : Field where
  name := "search.title"
  keywords := ["title"]
  forms := []
  calls := [.find, .select, .querySelector]
  default := some Default.title
  accepts := anyCandidate

def searchLink : Field where
  name := "search.link"
  keywords := ["link", "href"]
  forms := []
  calls := []
  default := some Default.link
  accepts := anyCandidate

def searchCover : Field where
  name := "search.cover"
  keywords := ["img", "cover", "image"]
  forms := []
  calls := [.find, .select]
  default := none
  accepts := anyCandidate

def author : Field where
  name := "details.author"
  keywords := ["author", "writer"]
  forms := []
  calls := [.dollar, .select, .querySelector]
  default := some Default.author
  accepts := anyCandidate

def description : Field where
  name := "details.description"
  keywords := ["description", "summary", "synopsis"]
  forms := []
  calls := [.dollar, .select]
  default := some Default.description
  accepts := anyCandidate

def genres : Field where
  name := "details.genres"
  keywords := ["genre", "tag", "category"]
  forms := []
  calls := [.dollar, .select]
  default := some Default.genres
  accepts := anyCandidate

def status : Field where
  name := "details.status"
  keywords := ["status"]
  forms := []
  calls := [.dollar, .select]
  default := some Default.status
  accepts := anyCandidate

def detailsCover : Field where
  name := "details.cover"
  keywords := ["cover", "image", "img"]
  forms := []
  calls := [.dollar, .select]
  default := none
  accepts := anyCandidate

def chapters : Field where
  name := "details.chapters"
  keywords := ["chapter", "episode"]
  forms := []
  calls := [.dollar, .select]
  default := some Default.chapters
  accepts := anyCandidate

def content : Field where
  name := "content.selector"
  keywords := ["content", "text", "chapter"]
  forms := []
  calls := [.dollar, .select, .querySelectorAll]
  default := some Default.contentInFunction
  accepts := anyCandidate

def all : List Field :=
  [searchItem, searchTitle, searchLink, searchCover, author, description, genres, status,
    detailsCover, chapters, content]

def ofName? (name : String) : Option Field :=
  all.find? fun field => field.name == name

end Field

end PluginRecovery
