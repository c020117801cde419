import PluginRecovery.Decimal.Layout
import PluginRecovery.Json.Fields
import PluginRecovery.Json.Number
import PluginRecovery.Script.Literal
import PluginRecovery.Text.LetterCase

/-!
What a content source yields: works, chapters and pages of text; and what it is asked for: listings
and filters.
-/

set_option autoImplicit false
set_option relaxedAutoImplicit false

namespace PluginRecovery

open PluginRecovery.Text

/-- How far the publication of a work has got. -/
inductive Status where
  | unknown
  | ongoing
  | completed
  | onHiatus
  | cancelled
  deriving DecidableEq, Repr

namespace Status

def name : Status → String
  | unknown => "unknown"
  | ongoing => "ongoing"
  | completed => "completed"
  | onHiatus => "on_hiatus"
  | cancelled => "cancelled"

def all : List Status :=
  [unknown, ongoing, completed, onHiatus, cancelled]

/-- The status that a text tells: by the first of four words that it contains, in any case. -/
def ofText (text : String) : Status :=
  let lowered := lower text.toList
  if Script.contains "ongoing".toList lowered then ongoing
  else if Script.contains "completed".toList lowered then completed
  else if Script.contains "hiatus".toList lowered then onHiatus
  else if Script.contains "cancelled".toList lowered then cancelled
  else unknown

def toJson (s : Status) : Json :=
  .text s.name

def ofJson? (j : Json) : Option Status :=
  j.caseName?.bind fun name => all.find? fun status => status.name == name

end Status

/-- A work. Its key is the address of its page. -/
structure Work where
  key : String
  title : String := ""
  author : String := ""
  description : String := ""
  genres : List String := []
  status : Status := .unknown
  cover : String := ""
  deriving DecidableEq, Repr

namespace Work

def toJson (w : Work) : Json :=
  .obj [
    ("key", .text w.key),
    ("title", .text w.title),
    ("author", .text w.author),
    ("description", .text w.description),
    ("genres", Json.list .text w.genres),
    ("status", w.status.toJson),
    ("cover", .text w.cover)]

def ofJson? (j : Json) : Option Work := do
  let fields ←
    j.fields? ["key", "title", "author", "description", "genres", "status", "cover"]
  return {
    key := ← fields.required "key" Json.text?
    title := ← fields.required "title" Json.text?
    author := ← fields.withDefault "author" Json.text? ""
    description := ← fields.withDefault "description" Json.text? ""
    genres := ← fields.withDefault "genres" (Json.list? Json.text?) []
    status := ← fields.withDefault "status" Status.ofJson? .unknown
    cover := ← fields.withDefault "cover" Json.text? "" }

end Work

/-- One page of a listing. -/
structure WorkPage where
  works : List Work
  hasNextPage : Bool
  deriving DecidableEq, Repr

namespace WorkPage

def empty : WorkPage :=
  ⟨[], false⟩

def toJson (p : WorkPage) : Json :=
  .obj [("mangas", Json.list Work.toJson p.works), ("has_next_page", .bool p.hasNextPage)]

def ofJson? (j : Json) : Option WorkPage := do
  let fields ← j.fields? ["mangas", "has_next_page"]
  return {
    works := ← fields.required "mangas" (Json.list? Work.ofJson?)
    hasNextPage := ← fields.required "has_next_page" Json.bool? }

end WorkPage

/-- A chapter. Its key is the address of its page, its number its place among the chapters, in
single precision. -/
structure Chapter where
  key : String
  name : String
  number : Decimal.Reading
  deriving DecidableEq

namespace Chapter

def toJson (c : Chapter) : Json :=
  .obj [
    ("key", .text c.key),
    ("name", .text c.name),
    ("number", Json.ofOption .number c.number.json?)]

def ofJson? (j : Json) : Option Chapter := do
  let fields ← j.fields? ["key", "name", "number"]
  return {
    key := ← fields.required "key" Json.text?
    name := ← fields.required "name" Json.text?
    number := ← fields.required "number" Json.single? }

end Chapter

/-- What a listing is narrowed by: the words of a title. -/
structure Filter where
  title : String
  deriving DecidableEq, Repr

namespace Filter

def toJson (f : Filter) : Json :=
  .obj [("type", .text "title"), ("value", .text f.title)]

def ofJson? (j : Json) : Option Filter :=
  (j.tagged? "value" "title").map Filter.mk

/-- The query of the first filter; empty without one. -/
def query (filters : List Filter) : String :=
  (filters.head?.map Filter.title).getD ""

end Filter

structure Listing where
  name : String
  deriving DecidableEq, Repr

namespace Listing

def toJson (l : Listing) : Json :=
  .obj [("name", .text l.name)]

def ofJson? (j : Json) : Option Listing := do
  let fields ← j.fields? ["name"]
  return ⟨← fields.required "name" Json.text?⟩

end Listing

structure Page where
  text : String
  deriving DecidableEq, Repr

namespace Page

def toJson (p : Page) : Json :=
  .obj [("type", .text "text"), ("text", .text p.text)]

def ofJson? (j : Json) : Option Page :=
  (j.tagged? "text" "text").map Page.mk

end Page

end PluginRecovery
