import Mathlib
import PluginRecovery.Proofs.Source.Requests

/-!
Fetching the details of a work again, and of another work with the same key. All that fetching does
to a work is to update it with the findings of the one page that its key leads to
(`details_eq_updated`), and an update takes each detail either from the findings or from the same
detail of the work. So an update that is made twice changes nothing the second time
(`Work.updated_updated`), and as it keeps the key, the second fetch finds the same page, if the
fetcher is `Steady`: then fetching twice is fetching once (`details_details`). Two works that share
a key are updated with the same findings, hence `FieldByField`.
-/

set_option autoImplicit false
set_option relaxedAutoImplicit false

namespace PluginRecovery

/-! ### Findings -/

structure Findings where
  author : Option String := none
  description : Option String := none
  genres : Option (List String) := none
  status : Option Status := none
  cover : Option String := none

/-- What the selectors of a recipe find on a page. -/
def DetailsRecipe.findings (recipe : DetailsRecipe) (page : WebPage) : Findings where
  author := recipe.author.bind page.firstText?
  description := recipe.description.bind page.firstText?
  genres := recipe.genres.bind page.allTexts?
  status := (recipe.status.bind page.firstText?).map Status.ofText
  cover := recipe.cover.bind page.firstImage?

namespace Work

/-- The work with what is found about it in the place of what was known. -/
def updated (work : Work) (found : Findings) : Work :=
  { work with
    author := found.author.getD work.author
    description := found.description.getD work.description
    genres := found.genres.getD work.genres
    status := found.status.getD work.status
    cover := found.cover.getD work.cover }

@[simp] theorem key_updated (work : Work) (found : Findings) :
    (work.updated found).key = work.key :=
  rfl

/-- The same findings twice are the findings once. -/
theorem updated_updated (work : Work) (found : Findings) :
    (work.updated found).updated found = work.updated found := by
  have hagain {α : Type} (new : Option α) (known : α) :
      new.getD (new.getD known) = new.getD known := by
    cases new <;> rfl
  simp only [updated, hagain]

/-- Each detail of the results depends on nothing but the same detail of the works. -/
structure FieldByField (work work' result result' : Work) : Prop where
  author : work.author = work'.author → result.author = result'.author
  description : work.description = work'.description → result.description = result'.description
  genres : work.genres = work'.genres → result.genres = result'.genres
  status : work.status = work'.status → result.status = result'.status
  cover : work.cover = work'.cover → result.cover = result'.cover

/-- A detail of the updated work comes from the findings or from the same detail of the work. -/
theorem FieldByField.updated (work work' : Work) (found : Findings) :
    work.FieldByField work' (work.updated found) (work'.updated found) where
  author := congrArg found.author.getD
  description := congrArg found.description.getD
  genres := congrArg found.genres.getD
  status := congrArg found.status.getD
  cover := congrArg found.cover.getD

/-- The details that there is no selector for are those of the work. -/
structure KeepsUnselected (details : Option DetailsRecipe) (work result : Work) : Prop where
  author : details.bind DetailsRecipe.author = none → result.author = work.author
  description : details.bind DetailsRecipe.description = none →
    result.description = work.description
  genres : details.bind DetailsRecipe.genres = none → result.genres = work.genres
  status : details.bind DetailsRecipe.status = none → result.status = work.status
  cover : details.bind DetailsRecipe.cover = none → result.cover = work.cover

theorem KeepsUnselected.self (details : Option DetailsRecipe) (work : Work) :
    KeepsUnselected details work work :=
  ⟨fun _ ↦ rfl, fun _ ↦ rfl, fun _ ↦ rfl, fun _ ↦ rfl, fun _ ↦ rfl⟩

/-- The findings have nothing where there is no selector. -/
theorem KeepsUnselected.updated (recipe : DetailsRecipe) (page : WebPage) (work : Work) :
    KeepsUnselected (some recipe) work (work.updated (recipe.findings page)) where
  author h := by simp_all [Work.updated, DetailsRecipe.findings]
  description h := by simp_all [Work.updated, DetailsRecipe.findings]
  genres h := by simp_all [Work.updated, DetailsRecipe.findings]
  status h := by simp_all [Work.updated, DetailsRecipe.findings]
  cover h := by simp_all [Work.updated, DetailsRecipe.findings]

end Work

/-! ### Fetchers with a state -/

namespace Fetch

variable {σ : Type}

/-- What the fetcher answers in a state. -/
def reply (fetch : Fetch (StateM σ)) (state : σ) (url : String) : Except Failure String :=
  ((fetch url).run state).1

/-- Equal addresses get equal answers, whatever has been asked for before. -/
def Steady (fetch : Fetch (StateM σ)) : Prop :=
  ∀ (url : String) (state state' : σ), fetch.reply state url = fetch.reply state' url

theorem steady_recorded (fetch : Fetch Id) : Steady (σ := List String) fetch.recorded := by
  intro url log log'
  rw [reply, reply, Fetch.run_recorded, Fetch.run_recorded]
  rfl

end Fetch

namespace Source

variable {σ : Type}

/-- The work that fetching details gives in a state. -/
def detailed (source : Source) (fetch : Fetch (StateM σ)) (state : σ) (work : Work) : Work :=
  ((source.details fetch work).run state).1

/-- The page that a link leads to in a state of the fetcher. -/
def seen (source : Source) (fetch : Fetch (StateM σ)) (state : σ) (link : String) :
    Option WebPage :=
  (source.resolve link).toOption.bind fun url ↦
    (fetch.reply state url).toOption.map (WebPage.ofText · source.baseUrl)

/-- What a source finds out about a work from its page, if there is one. -/
def findings (source : Source) (page : Option WebPage) : Findings :=
  (source.detailsRecipe?.bind fun recipe ↦ page.map recipe.findings).getD {}

variable (source : Source) (fetch : Fetch (StateM σ)) (state : σ)

/-- What is read off a page is read off the one that is seen. -/
theorem run_fromPage {α : Type} (link : String) (otherwise : α) (read : WebPage → α) :
    ((source.fromPage fetch link otherwise read).run state).1 =
      ((source.seen fetch state link).map read).getD otherwise := by
  rw [fromPage_eq, seen]
  cases (source.resolve link).toOption with
  | none => rfl
  | some url =>
    change ((fetch.reply state url).toOption.map _).getD otherwise = _
    rw [Option.bind_some, Option.map_map]
    rfl

/-- The details of a work are the work updated with what was found on its page. -/
theorem details_eq_updated (work : Work) :
    source.detailed fetch state work =
      work.updated (source.findings (source.seen fetch state work.key)) := by
  rw [detailed, details, findings]
  cases source.detailsRecipe? with
  | none => rfl
  | some recipe =>
    rw [run_fromPage, Option.bind_some]
    cases source.seen fetch state work.key <;> rfl

variable {source fetch}

/-- A page that a link leads to is read. -/
theorem run_fromPage_of_ok {α : Type} {link url body : String} (hurl : source.LeadsTo link url)
    (hbody : fetch.reply state url = .ok body) (otherwise : α) (read : WebPage → α) :
    ((source.fromPage fetch link otherwise read).run state).1 =
      read (.ofText body source.baseUrl) := by
  rw [run_fromPage, seen, toOption_resolve_eq_some_iff.mpr hurl, Option.bind_some, hbody]
  rfl

/-- A steady fetcher shows the same page in every state. -/
theorem seen_eq_of_steady (hsteady : fetch.Steady) (state state' : σ) (link : String) :
    source.seen fetch state link = source.seen fetch state' link := by
  simp only [seen, hsteady _ state state']

theorem keepsUnselected_detailed (work : Work) :
    Work.KeepsUnselected source.recipe.details work (source.detailed fetch state work) := by
  rw [details_eq_updated, findings]
  cases hrecipe : source.detailsRecipe? with
  | none => exact .self _ work
  | some recipe =>
    obtain ⟨hdetails, -⟩ := Option.filter_eq_some_iff.mp hrecipe
    rw [hdetails, Option.bind_some]
    cases source.seen fetch state work.key with
    | none => exact .self _ work
    | some page => exact .updated recipe page work

/-- With a fetcher that gives equal addresses equal answers, details that are fetched twice are
those that are fetched once. Each detail of a result depends on nothing but the same detail of the
work and the page of its key, and is that of the work when there is no selector for it. -/
theorem details_details (source : Source) :
    (∀ {σ : Type} (fetch : Fetch (StateM σ)), fetch.Steady → ∀ (work : Work) (state : σ),
      ((source.details fetch work >>= source.details fetch).run state).1 =
        source.detailed fetch state work) ∧
    (∀ {σ σ' : Type} (fetch : Fetch (StateM σ)) (fetch' : Fetch (StateM σ')) (state : σ)
      (state' : σ') (work work' : Work), work.key = work'.key →
      (∀ url, source.LeadsTo work.key url →
        (fetch.reply state url).toOption = (fetch'.reply state' url).toOption) →
      work.FieldByField work' (source.detailed fetch state work)
        (source.detailed fetch' state' work')) ∧
    ∀ {σ : Type} (fetch : Fetch (StateM σ)) (state : σ) (work : Work),
      Work.KeepsUnselected source.recipe.details work (source.detailed fetch state work) := by
  refine ⟨fun fetch hsteady work state ↦ ?_, ?_, fun fetch state work ↦ ?_⟩
  · let state' := ((source.details fetch work).run state).2
    change source.detailed fetch state' (source.detailed fetch state work) = _
    rw [details_eq_updated, details_eq_updated source fetch state, Work.key_updated,
      seen_eq_of_steady hsteady state' state, Work.updated_updated]
  · intro σ σ' fetch fetch' state state' work work' hkey hreplies
    have hseen : source.seen fetch state work.key = source.seen fetch' state' work'.key := by
      rw [seen, seen, ← hkey]
      cases hurl : (source.resolve work.key).toOption with
      | none => rfl
      | some url =>
        simp only [Option.bind_some, hreplies url (toOption_resolve_eq_some_iff.mp hurl)]
    rw [details_eq_updated, details_eq_updated, hseen]
    exact .updated work work' _
  · exact keepsUnselected_detailed state work

/-- An author on the page takes the place of the known one, once and for all; the cover stays as it
is and the genres are the same whatever author and cover are known. -/
theorem details_details_new_author :
    let work : Work := ⟨"https://a.example/n", "T", "Bob", "", ["Known"], .unknown, "c"⟩
    let other : Work := { work with author := "", cover := "d" }
    let source : Source := ⟨⟨⟨"A", "1.0.0", "en", "https://a.example", "", none⟩, none,
      some ⟨some ".a", none, none, none, none, none, none, none⟩, none⟩⟩
    let fetch : Fetch (StateM (List String)) := Fetch.recorded fun _ ↦ .ok "<i class=a>Ann</i>"
    ((source.details fetch work >>= source.details fetch).run []).1 =
        { work with author := "Ann" } ∧
      (source.detailed fetch [] work).genres = (source.detailed fetch ["n"] other).genres ∧
      (source.detailed fetch [] work).cover = "c" := by
  intro work other source fetch
  obtain ⟨htwice, hfields, hkept⟩ := source.details_details
  refine ⟨?_, ?_, (hkept fetch [] work).cover rfl⟩
  · rw [htwice fetch (Fetch.steady_recorded _) work []]
    decide +kernel
  · exact (hfields fetch fetch [] ["n"] work other rfl fun _ _ ↦ rfl).genres rfl

end Source

end PluginRecovery
