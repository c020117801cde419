import PluginRecovery.Analysis.Functions
import PluginRecovery.Analysis.Strategy
import PluginRecovery.Analysis.WholeText

/-!
The analysis of a plugin script: from a scope to a recipe, and the choice of the scope.
-/

set_option autoImplicit false
set_option relaxedAutoImplicit false

namespace PluginRecovery

open PluginRecovery.Pattern

namespace Analysis

def urlTemplateForms : List Form := [
  ⟨"query-string-literal",
    quoteMark ++ group 1 (unquoted ++ firstOf ["search", "page", "novel", "series", "browse"] ++
      unquoted ++ "?" ++ oneOrMore (!isQuoteMark ·)) ++ quoteMark⟩,
  ⟨"fetch-api-call", "fetchApi" ++ gap ++ "(" ++ gap ++ quotedText 1⟩,
  ⟨"site-concatenation", "this.site" ++ gap ++ "+" ++ gap ++ quotedText 1⟩,
  ⟨"absolute-url", WholeText.webAddress⟩]

/-- A call of `join` with a quoted separator. -/
def joinCall (separator : Pattern) : Pattern :=
  "join(" ++ gap ++ quoteMark ++ separator ++ quoteMark ++ gap ++ ")"

/-- The calls of `join` that are recognized, and what they join by. -/
def joinForms : List (Pattern × String) := [
  (joinCall "\\n\\n", "\n\n"),
  (joinCall "\\n", "\n"),
  (joinCall (oneOrMore (· == ' ')), " ")]

/-- What joins the blocks of a chapter: by the first form that occurs in the text. -/
def textJoin (body : List Char) : String :=
  ((joinForms.find? fun form => form.1.occursIn body).map Prod.snd).getD Default.textJoin

/-- The selector of a field, else its default. -/
def selector (scope : Scope) (field : Field) (text : List Char) : Traced (Option String) := do
  match ← scope.selector field text with
  | .ok found => return some found
  | .error _ =>
    match field.default with
    | none => return none
    | some default => do
      Traced.record (.defaulted field.name default)
      return some default

/-- The selector of a field; blank if it has no default either. -/
def selectorOrBlank (scope : Scope) (field : Field) (text : List Char) : Traced String := do
  return (← selector scope field text).getD ""

/-- A template has more than five characters. -/
def isTemplate (url : String) : Bool :=
  5 < url.toList.length

def searchRecipe (scope : Scope) : Traced (Option SearchRecipe) := do
  match ← scope.searchText with
  | none => return none
  | some text =>
    let urlTemplate ←
      (Chain.ofForms "search.url" urlTemplateForms isTemplate).resolveOr text Default.urlTemplate
    let item ← selectorOrBlank scope Field.searchItem text
    let title ← selectorOrBlank scope Field.searchTitle text
    let link ← selectorOrBlank scope Field.searchLink text
    let cover ← selector scope Field.searchCover text
    return some ⟨urlTemplate, item, title, link, cover⟩

def detailsDefaultName (details : DetailsRecipe) : String :=
  if details.hasDetails then "generic details pattern" else "empty details pattern"

/-- Where details stand. -/
def detailsRecipe (scope : Scope) : Traced DetailsRecipe := do
  match ← scope.detailsText with
  | none =>
    Traced.record (.defaulted "details" (detailsDefaultName scope.detailsDefault))
    return scope.detailsDefault
  | some text =>
    let author ← selectorOrBlank scope Field.author text
    let description ← selectorOrBlank scope Field.description text
    let genres ← selectorOrBlank scope Field.genres text
    let status ← selectorOrBlank scope Field.status text
    let cover ← selector scope Field.detailsCover text
    let chapters ← selectorOrBlank scope Field.chapters text
    return {
      author := some author
      description := some description
      genres := some genres
      status := some status
      cover := cover
      chapters := some chapters
      chapterName := none
      chapterUrl := none }

def contentRecipe (scope : Scope) : Traced ContentRecipe := do
  match ← scope.contentText with
  | none =>
    Traced.record (.defaulted "content" Default.content)
    return ContentRecipe.generic
  | some text =>
    let selector ← selectorOrBlank scope Field.content text
    return ⟨selector, textJoin text⟩

end Analysis

def Scope.recipe (scope : Scope) : Traced Recipe := do
  let identity ← scope.identity
  let search ← Analysis.searchRecipe scope
  let details ← Analysis.detailsRecipe scope
  let content ← Analysis.contentRecipe scope
  return ⟨identity, search, some details, some content⟩

/-- The recipe of a script. -/
def Strategy.analyze (strategy : Strategy) (source : List Char) : Traced Recipe :=
  match strategy with
  | .regex => (Scope.wholeText source).recipe
  | .structural => do
    let plugin ← Script.Plugin.parse source
    (Scope.functions plugin).recipe
  | .auto => do
    let plugin ← Script.Plugin.parse source
    if plugin.metadata.isSome then (Scope.functions plugin).recipe
    else (Scope.wholeText source).recipe

/-- The recipe of a script, if the analysis comes to an end. -/
def Strategy.analyze? (strategy : Strategy) (source : List Char) : Option (Traced Recipe) :=
  match strategy with
  | .regex => some (analyze .regex source)
  | .structural => (Script.Plugin.parse? source).map fun _ => analyze .structural source
  | .auto => (Script.Plugin.parse? source).map fun _ => analyze .auto source

end PluginRecovery
