import PluginRecovery.Analysis.Scope
import PluginRecovery.Script.Plugin

/-!
The scope of the functions of a plugin. Its identity is read from properties; lists, details and
chapters are looked for in the body of the first function of a fitting name.
-/

set_option autoImplicit false
set_option relaxedAutoImplicit false

namespace PluginRecovery

open PluginRecovery.Text PluginRecovery.Pattern PluginRecovery.Script

namespace Functions

def searchNames : List String :=
  ["searchNovels", "search", "popularNovels", "latestNovels", "getMangaList", "getPopular",
    "getLatest", "browse"]

def detailsNames : List String :=
  ["parseNovel", "parseNovelAndChapters", "getNovelDetails", "getMangaDetails", "getDetails",
    "fetchDetails", "novelDetails"]

def contentNames : List String :=
  ["parseChapter", "getChapterContent", "getContent", "fetchContent", "getChapter", "getPageList"]

/-- The calls that take a selector first. -/
def genericCalls : List Form := [
  ⟨"dollar-call", "$(" ++ gap ++ quotedText 1⟩,
  ⟨"query-selector", ".querySelector" ++ optional "All" ++ "(" ++ gap ++ quotedText 1⟩,
  ⟨"select-call", ".select(" ++ gap ++ quotedText 1⟩,
  ⟨"find-call", ".find(" ++ gap ++ quotedText 1⟩]

/-- The body of the first function of one of the names. -/
def bodyOf (plugin : Plugin) (field : String) (names : List String) :
    Traced (Option (List Char)) :=
  match plugin.firstFunction? names with
  | some function => do
    Traced.record (.accepted field ("function " ++ function.name))
    return some function.body.toList
  | none => do
    Traced.record
      (.rejected field ("none of " ++ toString names.length ++ " candidate functions defined"))
    return none

/-- The step that takes the text of a property, if it is not blank and acceptable. -/
def propertyStep (properties : Properties) (accepts : String → Bool) (key : String) :
    Step String where
  label := key
  attempt _ :=
    match Dictionary.get? properties key with
    | none => .error .noMatch
    | some value =>
      let text := value.text
      if !blank text.toList && accepts text then .ok text else .error (.rejected text)

def propertyChain (field : String) (properties : Properties) (keys : List String)
    (accepts : String → Bool) : Chain String :=
  ⟨field, keys.map (propertyStep properties accepts)⟩

/-- The identity that properties tell. -/
def identityOf (properties : Properties) : Traced Identity := do
  let id ← (propertyChain "metadata.id" properties ["id"] Field.anyCandidate).resolve []
  let found ←
    (propertyChain "metadata.name" properties ["name", "sourceName"] Field.anyCandidate).resolve []
  let name ← match found.toOption, id.toOption with
    | some name, _ => pure name
    | none, some id => pure (Identity.nameFromId id)
    | none, none => do
      Traced.record (.defaulted "metadata.name" Default.name)
      pure Default.name
  let version ← (propertyChain "metadata.version" properties ["version"]
    Identity.isVersion).resolveOr [] Default.version
  let lang ← (propertyChain "metadata.lang" properties ["lang", "language"]
    Identity.isLang).resolveOr [] Default.lang
  let baseUrl ← (propertyChain "metadata.base_url" properties
    ["site", "sourceSite", "baseUrl", "url"] startsWithHttp).resolveOr [] ""
  let icon ←
    (propertyChain "metadata.icon" properties ["icon"] Field.anyCandidate).resolveOr [] ""
  return ⟨name, version, lang, baseUrl, icon, id.toOption⟩

/-- The step that takes the first candidate of a form that belongs to the field. -/
def selectorStep (field : Field) (form : Form) : Step String where
  label := form.label
  attempt text :=
    let candidates := (form.pattern.searchAll text).map fun found =>
      String.ofList (found.groupText 1)
    match candidates.find? fun c => field.matchesKeyword c && field.accepts c with
    | some candidate => .ok candidate
    | none => .error .noMatch

/-- The first selector, by form and then by place, that belongs to the field. -/
def selector (field : Field) (text : List Char) : Traced (Attempt String) :=
  (Chain.mk field.name (genericCalls.map (selectorStep field))).resolve text

end Functions

def Scope.functions (plugin : Plugin) : Scope where
  identity := Functions.identityOf plugin.mergedProperties
  searchText := Functions.bodyOf plugin "search" Functions.searchNames
  detailsText := Functions.bodyOf plugin "details" Functions.detailsNames
  detailsDefault := DetailsRecipe.generic
  contentText := Functions.bodyOf plugin "content" Functions.contentNames
  selector := Functions.selector

end PluginRecovery
