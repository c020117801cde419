import PluginRecovery.Analysis.Scope

/-!
The scope of a script's whole text, which needs no understanding of its structure. Everything is
found by patterns that are anchored at telling words.
-/

set_option autoImplicit false
set_option relaxedAutoImplicit false

namespace PluginRecovery

open PluginRecovery.Text PluginRecovery.Pattern

namespace WholeText

/-- A key, its colon and a quoted value, kept as group `number`. -/
def keyValue (key : String) (number : Nat) : Pattern :=
  literal key ++ gap ++ ":" ++ gap ++ quotedText number

/-- A quoted key, its colon and a quoted value. -/
def quotedKeyValue (key : String) : Pattern :=
  quoteMark ++ literal key ++ quoteMark ++ gap ++ ":" ++ gap ++ quotedText 1

/-- An assignment of a quoted value to a property of `this`. -/
def assigned (key : String) : Pattern :=
  literal ("this." ++ key) ++ gap ++ "=" ++ gap ++ quotedText 1

/-- A getter that returns a quoted value. -/
def getter (key : String) : Pattern :=
  "get" ++ blanks ++ literal key ++ gap ++ "(" ++ gap ++ ")" ++ gap ++ "\x7b" ++ gap ++ "return" ++
    gap ++ quotedText 1

/-- A quoted text that no group keeps. -/
def someText : Pattern :=
  quoteMark ++ oneOrMore (!isQuoteMark ·) ++ quoteMark

/-- An address of the web up to the next quote. -/
def webAddress : Pattern :=
  "http" ++ optional "s" ++ "://" ++ oneOrMore (!isQuoteMark ·)

def nameForms : List Form := [
  ⟨"object-property", keyValue "name" 1⟩,
  ⟨"quoted-key", quotedKeyValue "name"⟩,
  ⟨"this-assignment", assigned "name"⟩,
  ⟨"getter", getter "name"⟩,
  ⟨"class-body",
    "class" ++ blanks ++ word ++ many (fun _ => true) 0 none false ++ "name" ++ gap ++ "=" ++ gap ++
      quotedText 1⟩,
  ⟨"metadata-object",
    "metadata" ++ gap ++ ":" ++ gap ++ "\x7b" ++ anyNumber (· != '}') ++ keyValue "name" 1⟩,
  ⟨"id-then-name",
    "id" ++ gap ++ ":" ++ gap ++ someText ++ "," ++ gap ++ keyValue "name" 1⟩,
  ⟨"any-name",
    "name" ++ gap ++ ":" ++ gap ++ quoteMark ++ group 1 (many (!isQuoteMark ·) 3 none true) ++
      quoteMark⟩]

def versionForms : List Form := [
  ⟨"object-property", keyValue "version" 1⟩,
  ⟨"quoted-key", quotedKeyValue "version"⟩,
  ⟨"this-assignment", assigned "version"⟩,
  ⟨"getter", getter "version"⟩,
  ⟨"name-then-version",
    "name" ++ gap ++ ":" ++ gap ++ someText ++ "," ++ gap ++ keyValue "version" 1⟩]

def langForms : List Form := [
  ⟨"object-property", keyValue "lang" 1⟩,
  ⟨"quoted-key", quotedKeyValue "lang"⟩,
  ⟨"language-property", keyValue "language" 1⟩,
  ⟨"this-assignment", assigned "lang"⟩,
  ⟨"getter", getter "lang"⟩]

def baseUrlForms : List Form := [
  ⟨"base-url-property", keyValue "baseUrl" 1⟩,
  ⟨"site-property", keyValue "site" 1⟩,
  ⟨"quoted-base-url", quotedKeyValue "baseUrl"⟩,
  ⟨"quoted-site", quotedKeyValue "site"⟩,
  ⟨"this-site", assigned "site"⟩,
  ⟨"this-base-url", assigned "baseUrl"⟩,
  ⟨"site-getter", getter "site"⟩,
  ⟨"base-url-getter", getter "baseUrl"⟩,
  ⟨"absolute-url", optional quoteMark ++ group 1 webAddress ++ optional quoteMark⟩]

def iconForms : List Form := [
  ⟨"object-property", keyValue "icon" 1⟩,
  ⟨"quoted-key", quotedKeyValue "icon"⟩,
  ⟨"this-assignment", assigned "icon"⟩,
  ⟨"getter", getter "icon"⟩]

def idForms : List Form := [
  ⟨"object-property", keyValue "id" 1⟩,
  ⟨"quoted-key", quotedKeyValue "id"⟩,
  ⟨"this-assignment", assigned "id"⟩]

/-- A row of characters other than closing braces, no longer than `most`. -/
def within (most : Nat) : Pattern :=
  many (· != '}') 0 (some most) true

/-- Objects that hold id, name, version and site close together: groups 1 to 4. -/
def clusters : List Form := [
  ⟨"id-name-version-site",
    "\x7b" ++ within 200 ++ keyValue "id" 1 ++ within 100 ++ keyValue "name" 2 ++ within 100 ++
      keyValue "version" 3 ++ within 100 ++ firstOf ["site", "baseUrl"] ++ gap ++ ":" ++ gap ++
      quotedText 4⟩,
  ⟨"id-source-name-version-source-site",
    "\x7b" ++ within 200 ++ keyValue "id" 1 ++ within 100 ++ keyValue "sourceName" 2 ++
      within 100 ++ keyValue "version" 3 ++ within 100 ++ keyValue "sourceSite" 4⟩,
  ⟨"id-name", "\x7b" ++ within 100 ++ keyValue "id" 1 ++ within 50 ++ keyValue "name" 2⟩]

def clusterLang : Pattern :=
  "lang" ++ gap ++ ":" ++ gap ++ quoteMark ++
    group 1 (many (fun c => 'a' ≤ c && c ≤ 'z') 2 (some 5) true) ++ quoteMark

def clusterIcon : Pattern :=
  keyValue "icon" 1

/-- A row of arguments in parentheses. -/
def arguments : Pattern :=
  "(" ++ anyNumber (· != ')') ++ ")"

/-- The word that makes a function asynchronous, or nothing. -/
def maybeAsync : Pattern :=
  optional ("async" ++ blanks)

/-- A function of the given name that is opened somewhere later. -/
def openedLater (name : String) : Pattern :=
  literal name ++ anyNumber (· != '{') ++ "\x7b"

/-- Signs of a function that lists works. -/
def listingSigns : List Pattern := [
  openedLater "searchNovels",
  openedLater "popularNovels",
  openedLater "getMangaList",
  maybeAsync ++ "search" ++ gap ++ arguments ++ gap ++ "\x7b"]

/-- A function's body in braces, kept as group 1. -/
def body : Pattern :=
  let plain := anyNumber (· != '}')
  "\x7b" ++
    group 1 (oneOrMore (· != '}') ++ star ("\x7b" ++ plain ++ "\x7d" ++ plain)) ++ "\x7d"

/-- A method of one of the given names, with its body. -/
def methodBody (names : List String) : Pattern :=
  maybeAsync ++ firstOf (names.map literal) ++ gap ++ arguments ++ gap ++ body

/-- A property of one of the given names that is a function, with its body. -/
def propertyBody (names : List String) : Pattern :=
  firstOf (names.map literal) ++ ":" ++ gap ++ maybeAsync ++ "function" ++ gap ++ arguments ++ gap ++
    body

def detailsForms : List Form := [
  ⟨"details-method",
    methodBody ["getDetails", "fetchDetails", "getMangaDetails", "getNovelDetails"]⟩,
  ⟨"details-property", propertyBody ["getDetails", "fetchDetails"]⟩]

def contentForms : List Form := [
  ⟨"content-method", methodBody ["getContent", "fetchContent", "getChapter", "getPageList"]⟩,
  ⟨"content-property", propertyBody ["getContent", "fetchContent"]⟩]

/-- The fields of a cluster and the offsets of its match. -/
structure Cluster where
  id : String
  name : String
  version : Option String
  site : Option String
  start : Nat
  stop : Nat

instance : Summary Cluster where
  summary c :=
    "id=" ++ c.id ++ " name=" ++ c.name ++ " at " ++ toString c.start ++ ".." ++ toString c.stop

/-- A name is not blank and has more than two characters. -/
def isLongName (name : String) : Bool :=
  !blank name.toList && 2 < name.toList.length

/-- The cluster of a form, if its name is long enough. -/
def clusterStep (form : Form) : Step Cluster where
  label := form.label
  attempt source :=
    match form.pattern.search? source with
    | none => .error .noMatch
    | some found =>
      let group? (number : Nat) := (found.group? number).map fun span => String.ofList span.text
      let name := (group? 2).getD ""
      if isLongName name then
        .ok {
          id := (group? 1).getD ""
          name := name
          version := group? 3
          site := group? 4
          start := found.whole.start.offset
          stop := found.whole.stop.offset }
      else .error (.rejected name)

/-- How far around a cluster its language and its icon are looked for. -/
def clusterContext : Nat := 500

def clusterChain : Chain Cluster :=
  ⟨"metadata.cluster", clusters.map clusterStep⟩

/-- The identity that a cluster and its surroundings tell. -/
def Cluster.identity (source : List Char) (c : Cluster) : Identity :=
  let context := window source (c.start - clusterContext) (c.stop + clusterContext)
  {
    name := c.name
    version := c.version.getD Default.version
    lang := (clusterLang.capture? context).getD Default.lang
    baseUrl := c.site.getD ""
    icon := (clusterIcon.capture? context).getD ""
    id := none }

/-- The name when the id is known: the one found, else one made of the id, else the default. -/
def settleName (name id : Option String) : Traced String :=
  match name, id with
  | some name, _ => return name
  | none, some id =>
    if blank id.toList then do
      Traced.record (.defaulted "metadata.name" Default.name)
      return Default.name
    else do
      Traced.record (.accepted "metadata.name" ("generated from id '" ++ id ++ "'"))
      return Identity.nameFromId id
  | none, none => do
    Traced.record (.defaulted "metadata.name" Default.name)
    return Default.name

/-- The identity that the single fields tell. The id serves only to make a name. -/
def identityOfFields (source : List Char) : Traced Identity := do
  let name ← (Chain.ofForms "metadata.name" nameForms isLongName).resolve source
  let version ←
    (Chain.ofForms "metadata.version" versionForms Identity.isVersion).resolveOr source
      Default.version
  let lang ← (Chain.ofForms "metadata.lang" langForms Identity.isLang).resolveOr source Default.lang
  let baseUrl ← (Chain.ofForms "metadata.base_url" baseUrlForms startsWithHttp).resolveOr source ""
  let icon ← (Chain.ofForms "metadata.icon" iconForms Field.anyCandidate).resolveOr source ""
  let id ← (Chain.ofForms "metadata.id" idForms Field.anyCandidate).resolve source
  let name ← settleName name.toOption id.toOption
  return ⟨name, version, lang, baseUrl, icon, none⟩

/-- The identity of the plugin: by a cluster if there is one. -/
def identity (source : List Char) : Traced Identity := do
  match ← clusterChain.resolve source with
  | .ok cluster => return cluster.identity source
  | .error _ => identityOfFields source

/-- The whole text, if the plugin lists works. -/
def searchText (source : List Char) : Traced (Option (List Char)) :=
  if listingSigns.any fun sign => sign.occursIn source then do
    Traced.record (.accepted "search" "listing function present")
    return some source
  else do
    Traced.record (.rejected "search" "no listing function")
    return none

/-- The body that the first matching form keeps. -/
def bodyOf (field : String) (source : List Char) : List Form → Traced (Option (List Char))
  | [] => return none
  | form :: rest =>
    match (form.pattern.search? source).bind fun found => found.group? 1 with
    | some span => do
      Traced.record (.accepted field form.label)
      return some span.text
    | none => bodyOf field source rest

/-- The selector of a field, by the forms that are anchored at its keywords. -/
def selector (field : Field) (text : List Char) : Traced (Attempt String) :=
  (Chain.ofForms field.name field.anchoredForms field.accepts).resolve text

end WholeText

/-- The scope of a whole script. Without a function for details nothing is read from their page. -/
def Scope.wholeText (source : List Char) : Scope where
  identity := WholeText.identity source
  searchText := WholeText.searchText source
  detailsText := WholeText.bodyOf "details" source WholeText.detailsForms
  detailsDefault := DetailsRecipe.none
  contentText := WholeText.bodyOf "content" source WholeText.contentForms
  selector := WholeText.selector

end PluginRecovery
