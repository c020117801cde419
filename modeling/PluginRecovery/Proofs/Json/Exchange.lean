import Mathlib
import PluginRecovery.Analysis.Strategy
import PluginRecovery.Proofs.Json.Records
import PluginRecovery.Recipe.Encoding
import PluginRecovery.Source.Work

/-!
The values that are exchanged as JSON texts. Each is decoded from its encoding (`ofJson?_toJson`,
one for each type), and encodings can be written and read again (`Kind.written_toJson`), so that a
printed value is parsed as this value and a text that was parsed and printed once is stable
(`Kind.printed_texts`).
-/

set_option autoImplicit false
set_option relaxedAutoImplicit false

namespace PluginRecovery

open Json (fields?_obj)

/-! ### Decoding what was encoded -/

theorem Identity.ofJson?_toJson (i : Identity) : ofJson? i.toJson = some i := by
  obtain ⟨name, version, lang, baseUrl, icon, id⟩ := i
  cases id with
  | none =>
    rw [ofJson?, toJson, fields?_obj (by simp) (by simp)]
    simp [Json.Fields.required, Json.Fields.withDefault, List.lookup]
  | some id =>
    rw [ofJson?, toJson, fields?_obj (by simp) (by simp)]
    simp [Json.Fields.required, Json.Fields.withDefault, List.lookup]
    rfl

theorem SearchRecipe.ofJson?_toJson (s : SearchRecipe) : ofJson? s.toJson = some s := by
  rw [ofJson?, toJson, fields?_obj (by simp) (by simp)]
  simp only [Json.Fields.required, Json.Fields.withDefault, List.lookup, String.reduceBEq,
    Option.bind_eq_bind, Option.bind_some, Json.text?_text, Json.nullable_text, Option.pure_def]

theorem DetailsRecipe.ofJson?_toJson (d : DetailsRecipe) : ofJson? d.toJson = some d := by
  rw [ofJson?, toJson, fields?_obj (by simp) (by simp)]
  simp only [Json.Fields.optional, List.lookup, String.reduceBEq, Option.bind_eq_bind,
    Option.bind_some, Json.nullable_text, Option.pure_def]

theorem ContentRecipe.ofJson?_toJson (c : ContentRecipe) : ofJson? c.toJson = some c := by
  rw [ofJson?, toJson, fields?_obj (by simp) (by simp)]
  simp [Json.Fields.required, List.lookup]

/-- A recipe is had back from its encoding, with all its parts. -/
theorem Recipe.ofJson?_toJson (r : Recipe) : ofJson? r.toJson = some r := by
  have hsearch := Json.nullable_ofOption SearchRecipe.ofJson?_toJson
    (fun _ ↦ Json.noConfusion) r.search
  have hdetails := Json.nullable_ofOption DetailsRecipe.ofJson?_toJson
    (fun _ ↦ Json.noConfusion) r.details
  have hcontent := Json.nullable_ofOption ContentRecipe.ofJson?_toJson
    (fun _ ↦ Json.noConfusion) r.content
  rw [ofJson?, toJson, fields?_obj (by simp) (by simp)]
  simp only [Json.Fields.required, Json.Fields.optional, List.lookup, String.reduceBEq,
    Option.bind_eq_bind, Option.bind_some, Option.pure_def, Identity.ofJson?_toJson, hsearch,
    hdetails, hcontent]

/-- Each status has a name of its own. -/
theorem Status.ofJson?_toJson (s : Status) : ofJson? s.toJson = some s := by
  cases s <;> rfl

theorem Strategy.ofJson?_toJson (s : Strategy) : ofJson? s.toJson = some s := by
  cases s <;> rfl

theorem Work.ofJson?_toJson (w : Work) : ofJson? w.toJson = some w := by
  rw [ofJson?, toJson, fields?_obj (by simp) (by simp)]
  simp only [Json.Fields.required, Json.Fields.withDefault, List.lookup, String.reduceBEq,
    Option.bind_eq_bind, Option.bind_some, Json.text?_text, Json.list?_list Json.text?_text,
    Status.ofJson?_toJson, Option.pure_def]

theorem WorkPage.ofJson?_toJson (p : WorkPage) : ofJson? p.toJson = some p := by
  rw [ofJson?, toJson, fields?_obj (by simp) (by simp)]
  simp only [Json.Fields.required, List.lookup, String.reduceBEq, Option.bind_eq_bind,
    Option.bind_some, Json.list?_list Work.ofJson?_toJson, Json.bool?, Option.pure_def]

/-- A record with one case is had back from its tag and its contents. -/
theorem tagged?_tagged {contentName : String} (h : contentName ≠ "type") (caseName s : String) :
    Json.tagged? contentName caseName (.obj [("type", .text caseName), (contentName, .text s)]) =
      some s := by
  rw [Json.tagged?, fields?_obj (by simp) (by simpa using h.symm)]
  simp only [Json.Fields.required, List.lookup, beq_self_eq_true, beq_false_of_ne h,
    Option.bind_eq_bind, Option.bind_some, Json.text?_text]
  exact if_pos rfl

theorem Filter.ofJson?_toJson (f : Filter) : ofJson? f.toJson = some f :=
  congrArg (Option.map mk) (tagged?_tagged (by decide) "title" f.title)

theorem Listing.ofJson?_toJson (l : Listing) : ofJson? l.toJson = some l := by
  rw [ofJson?, toJson, fields?_obj (by simp) (by simp)]
  simp [Json.Fields.required, List.lookup]

theorem Page.ofJson?_toJson (p : Page) : ofJson? p.toJson = some p :=
  congrArg (Option.map mk) (tagged?_tagged (by decide) "text" p.text)

/-! ### Encodings are written -/

theorem Identity.written_toJson (i : Identity) : i.toJson.Written := by
  refine .obj (List.forall_mem_append.mpr ⟨?_, ?_⟩)
  · simp [Json.Written.text]
  · simp +contextual [Json.Written.text]

theorem SearchRecipe.written_toJson (s : SearchRecipe) : s.toJson.Written := by
  refine .obj ?_
  simp [Json.Written.text, Json.written_ofOption]

theorem DetailsRecipe.written_toJson (d : DetailsRecipe) : d.toJson.Written := by
  refine .obj ?_
  simp [Json.Written.text, Json.written_ofOption]

theorem ContentRecipe.written_toJson (c : ContentRecipe) : c.toJson.Written := by
  refine .obj ?_
  simp [Json.Written.text]

theorem Recipe.written_toJson (r : Recipe) : r.toJson.Written := by
  refine .obj ?_
  simp [Identity.written_toJson, Json.written_ofOption, SearchRecipe.written_toJson,
    DetailsRecipe.written_toJson, ContentRecipe.written_toJson]

theorem Work.written_toJson (w : Work) : w.toJson.Written := by
  refine .obj ?_
  simp [Json.Written.text, Json.written_list, Status.toJson]

theorem WorkPage.written_toJson (p : WorkPage) : p.toJson.Written := by
  refine .obj ?_
  simp [Json.Written.bool, Json.written_list, Work.written_toJson]

theorem Filter.written_toJson (f : Filter) : f.toJson.Written := by
  refine .obj ?_
  simp [Json.Written.text]

theorem Listing.written_toJson (l : Listing) : l.toJson.Written := by
  refine .obj ?_
  simp [Json.Written.text]

theorem Page.written_toJson (p : Page) : p.toJson.Written := by
  refine .obj ?_
  simp [Json.Written.text]

/-! ### Printing and parsing -/

/-- The kinds of values that are exchanged as texts. -/
inductive Kind where
  | recipe
  | identity
  | searchRecipe
  | detailsRecipe
  | contentRecipe
  | work
  | workPage
  | filter
  | listing
  | page
  | status
  | strategy

namespace Kind

abbrev Value : Kind → Type
  | recipe => Recipe
  | identity => Identity
  | searchRecipe => SearchRecipe
  | detailsRecipe => DetailsRecipe
  | contentRecipe => ContentRecipe
  | work => Work
  | workPage => WorkPage
  | filter => Filter
  | listing => Listing
  | page => Page
  | status => Status
  | strategy => Strategy

def toJson : (kind : Kind) → kind.Value → Json
  | recipe => Recipe.toJson
  | identity => Identity.toJson
  | searchRecipe => SearchRecipe.toJson
  | detailsRecipe => DetailsRecipe.toJson
  | contentRecipe => ContentRecipe.toJson
  | work => Work.toJson
  | workPage => WorkPage.toJson
  | filter => Filter.toJson
  | listing => Listing.toJson
  | page => Page.toJson
  | status => Status.toJson
  | strategy => Strategy.toJson

def ofJson? : (kind : Kind) → Json → Option kind.Value
  | recipe => Recipe.ofJson?
  | identity => Identity.ofJson?
  | searchRecipe => SearchRecipe.ofJson?
  | detailsRecipe => DetailsRecipe.ofJson?
  | contentRecipe => ContentRecipe.ofJson?
  | work => Work.ofJson?
  | workPage => WorkPage.ofJson?
  | filter => Filter.ofJson?
  | listing => Listing.ofJson?
  | page => Page.ofJson?
  | status => Status.ofJson?
  | strategy => Strategy.ofJson?

/-- The fields of a value that may be missing or may have missing fields themselves, with their
encodings if they are there. -/
def options : (kind : Kind) → kind.Value → List (String × Option Json)
  | recipe, r => [
    ("metadata", some r.identity.toJson),
    ("search_pattern", r.search.map SearchRecipe.toJson),
    ("details_pattern", r.details.map DetailsRecipe.toJson),
    ("content_pattern", r.content.map ContentRecipe.toJson)]
  | identity, i => [("id", i.id.map .text)]
  | searchRecipe, s => [("cover_selector", s.cover.map .text)]
  | detailsRecipe, d => [
    ("author_selector", d.author.map .text),
    ("description_selector", d.description.map .text),
    ("genres_selector", d.genres.map .text),
    ("status_selector", d.status.map .text),
    ("cover_selector", d.cover.map .text),
    ("chapters_selector", d.chapters.map .text),
    ("chapter_name_selector", d.chapterName.map .text),
    ("chapter_url_selector", d.chapterUrl.map .text)]
  | _, _ => []

def print (kind : Kind) (value : kind.Value) : String :=
  (kind.toJson value).compact

def parse? (kind : Kind) (text : String) : Option kind.Value :=
  (Json.read? text.toList).bind kind.ofJson?

def reprint? (kind : Kind) (text : String) : Option String :=
  (kind.parse? text).map kind.print

/-- A value of any kind is had back from its encoding. -/
theorem ofJson?_toJson (kind : Kind) (value : kind.Value) :
    kind.ofJson? (kind.toJson value) = some value := by
  cases kind with
  | recipe => exact value.ofJson?_toJson
  | identity => exact value.ofJson?_toJson
  | searchRecipe => exact value.ofJson?_toJson
  | detailsRecipe => exact value.ofJson?_toJson
  | contentRecipe => exact value.ofJson?_toJson
  | work => exact value.ofJson?_toJson
  | workPage => exact value.ofJson?_toJson
  | filter => exact value.ofJson?_toJson
  | listing => exact value.ofJson?_toJson
  | page => exact value.ofJson?_toJson
  | status => exact value.ofJson?_toJson
  | strategy => exact value.ofJson?_toJson

/-- Encodings have no numbers and only strings that are texts. -/
theorem written_toJson (kind : Kind) (value : kind.Value) : (kind.toJson value).Written := by
  cases kind with
  | recipe => exact value.written_toJson
  | identity => exact value.written_toJson
  | searchRecipe => exact value.written_toJson
  | detailsRecipe => exact value.written_toJson
  | contentRecipe => exact value.written_toJson
  | work => exact value.written_toJson
  | workPage => exact value.written_toJson
  | filter => exact value.written_toJson
  | listing => exact value.written_toJson
  | page => exact value.written_toJson
  | status => exact .text _
  | strategy => exact .text _

/-- A value can be read from its text as it was encoded. -/
theorem read?_print (kind : Kind) (value : kind.Value) :
    Json.read? (kind.print value).toList = some (kind.toJson value) :=
  (kind.written_toJson value).read?_compact

/-- A value of any kind is had back from its printed text. -/
theorem parse?_print (kind : Kind) (value : kind.Value) :
    kind.parse? (kind.print value) = some value := by
  rw [parse?, read?_print, Option.bind_some, ofJson?_toJson]

/-- What is missing is encoded as `null`, but for the id of an identity, which is left out. -/
theorem member?_toJson (kind : Kind) (value : kind.Value) :
    ∀ field ∈ kind.options value, (kind.toJson value).member? field.1 =
      if field.1 = "id" then field.2 else some (field.2.getD .null) := by
  cases kind with
  | recipe =>
    simp [options, toJson, Recipe.toJson, Json.obj, Json.member?, List.lookup, Json.ofOption_eq]
  | identity =>
    obtain ⟨name, version, lang, baseUrl, icon, id⟩ := value
    cases id <;>
      simp [options, toJson, Identity.toJson, Json.obj, Json.member?, List.lookup]
  | searchRecipe =>
    simp [options, toJson, SearchRecipe.toJson, Json.obj, Json.member?, List.lookup,
      Json.ofOption_eq]
  | detailsRecipe =>
    simp [options, toJson, DetailsRecipe.toJson, Json.obj, Json.member?, List.lookup,
      Json.ofOption_eq]
  | _ => exact List.forall_mem_nil _

/-- A printed value is parsed as this value, in its text a field that may be missing is `null` if it
is missing, and an id is left out; and the text of a parsed value, whatever text it was parsed from,
is parsed again and printed as it is. -/
theorem printed_texts (kind : Kind) :
    (∀ value : kind.Value, kind.parse? (kind.print value) = some value ∧
      Json.read? (kind.print value).toList = some (kind.toJson value) ∧
      ∀ field ∈ kind.options value, (kind.toJson value).member? field.1 =
        if field.1 = "id" then field.2 else some (field.2.getD .null)) ∧
    ∀ text once, kind.reprint? text = some once → kind.reprint? once = some once := by
  refine ⟨fun value ↦ ⟨kind.parse?_print value, kind.read?_print value,
    kind.member?_toJson value⟩, fun text once hprint ↦ ?_⟩
  obtain ⟨value, -, rfl⟩ := Option.map_eq_some_iff.mp hprint
  rw [reprint?, kind.parse?_print, Option.map_some]

/-- A work with its fields in another order, with one more and without those that have defaults. -/
theorem printed_texts_of_unordered_work :
    work.reprint? "\x7b \"n\": [1], \"title\": \"\\u0041\", \"key\": \"k\" \x7d" =
      some (work.print { key := "k", title := "A" }) ∧
    work.reprint? (work.print { key := "k", title := "A" }) =
      some (work.print { key := "k", title := "A" }) := by
  have hprint : work.reprint? "\x7b \"n\": [1], \"title\": \"\\u0041\", \"key\": \"k\" \x7d" =
      some (work.print { key := "k", title := "A" }) := by
    decide +kernel
  exact ⟨hprint, (printed_texts work).2 _ _ hprint⟩

end Kind

end PluginRecovery
