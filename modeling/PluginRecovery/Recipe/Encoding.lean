import PluginRecovery.Json.Fields
import PluginRecovery.Json.Printer
import PluginRecovery.Json.Reader
import PluginRecovery.Recipe.Basic

/-!
Recipes as JSON. What is missing is written as `null`, but for the id of an identity, which is left
out; in reading, what may be `null` may also be left out.
-/

set_option autoImplicit false
set_option relaxedAutoImplicit false

namespace PluginRecovery

namespace Identity

def toJson (i : Identity) : Json :=
  .obj ([
    ("name", .text i.name),
    ("version", .text i.version),
    ("lang", .text i.lang),
    ("base_url", .text i.baseUrl),
    ("icon", .text i.icon)] ++ (i.id.map fun id => ("id", Json.text id)).toList)

def ofJson? (j : Json) : Option Identity := do
  let fields ← j.fields? ["name", "version", "lang", "base_url", "icon", "id"]
  return {
    name := ← fields.required "name" Json.text?
    version := ← fields.required "version" Json.text?
    lang := ← fields.required "lang" Json.text?
    baseUrl := ← fields.required "base_url" Json.text?
    icon := ← fields.withDefault "icon" Json.text? ""
    id := ← fields.withDefault "id" (Json.Fields.nullable Json.text?) none }

end Identity

namespace SearchRecipe

def toJson (s : SearchRecipe) : Json :=
  .obj [
    ("url_template", .text s.urlTemplate),
    ("selector", .text s.item),
    ("title_selector", .text s.title),
    ("link_selector", .text s.link),
    ("cover_selector", Json.ofOption .text s.cover)]

def ofJson? (j : Json) : Option SearchRecipe := do
  let fields ← j.fields?
    ["url_template", "selector", "title_selector", "link_selector", "cover_selector"]
  return {
    urlTemplate := ← fields.required "url_template" Json.text?
    item := ← fields.required "selector" Json.text?
    title := ← fields.required "title_selector" Json.text?
    link := ← fields.required "link_selector" Json.text?
    cover := ← fields.withDefault "cover_selector" (Json.Fields.nullable Json.text?) none }

end SearchRecipe

namespace DetailsRecipe

def toJson (d : DetailsRecipe) : Json :=
  .obj [
    ("author_selector", Json.ofOption .text d.author),
    ("description_selector", Json.ofOption .text d.description),
    ("genres_selector", Json.ofOption .text d.genres),
    ("status_selector", Json.ofOption .text d.status),
    ("cover_selector", Json.ofOption .text d.cover),
    ("chapters_selector", Json.ofOption .text d.chapters),
    ("chapter_name_selector", Json.ofOption .text d.chapterName),
    ("chapter_url_selector", Json.ofOption .text d.chapterUrl)]

def ofJson? (j : Json) : Option DetailsRecipe := do
  let fields ← j.fields? ["author_selector", "description_selector", "genres_selector",
    "status_selector", "cover_selector", "chapters_selector", "chapter_name_selector",
    "chapter_url_selector"]
  return {
    author := ← fields.optional "author_selector" Json.text?
    description := ← fields.optional "description_selector" Json.text?
    genres := ← fields.optional "genres_selector" Json.text?
    status := ← fields.optional "status_selector" Json.text?
    cover := ← fields.optional "cover_selector" Json.text?
    chapters := ← fields.optional "chapters_selector" Json.text?
    chapterName := ← fields.optional "chapter_name_selector" Json.text?
    chapterUrl := ← fields.optional "chapter_url_selector" Json.text? }

end DetailsRecipe

namespace ContentRecipe

def toJson (c : ContentRecipe) : Json :=
  .obj [("selector", .text c.selector), ("text_join", .text c.textJoin)]

def ofJson? (j : Json) : Option ContentRecipe := do
  let fields ← j.fields? ["selector", "text_join"]
  return {
    selector := ← fields.required "selector" Json.text?
    textJoin := ← fields.required "text_join" Json.text? }

end ContentRecipe

namespace Recipe

def toJson (r : Recipe) : Json :=
  .obj [
    ("metadata", r.identity.toJson),
    ("search_pattern", Json.ofOption SearchRecipe.toJson r.search),
    ("details_pattern", Json.ofOption DetailsRecipe.toJson r.details),
    ("content_pattern", Json.ofOption ContentRecipe.toJson r.content)]

def ofJson? (j : Json) : Option Recipe := do
  let fields ← j.fields? ["metadata", "search_pattern", "details_pattern", "content_pattern"]
  return {
    identity := ← fields.required "metadata" Identity.ofJson?
    search := ← fields.optional "search_pattern" SearchRecipe.ofJson?
    details := ← fields.optional "details_pattern" DetailsRecipe.ofJson?
    content := ← fields.optional "content_pattern" ContentRecipe.ofJson? }

end Recipe

end PluginRecovery
