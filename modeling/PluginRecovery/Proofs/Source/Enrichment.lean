import Mathlib
import PluginRecovery.Proofs.Source.Requests
import PluginRecovery.Proofs.WebPage.Candidates

/-!
What becomes of a work when its details are fetched. It stays as it is, or it is enriched by the
page that its key leads to (`details_eq_or`, `details_of_ok`). An `Enriched` work is the same work
still, where each text is the known one or not blank, and no new genre is blank (`enriched_enrich`).
But the known genres can be lost as a whole, to a page with nothing but blank elements for them
(`genres_enrich_eq_nil_iff`), and in no other way (`enriched_details`). A fetcher without effects
stands for any here: all that an operation takes from a fetcher is one answer
(`Operation.perform_eq`).
-/

set_option autoImplicit false
set_option relaxedAutoImplicit false

namespace PluginRecovery

open PluginRecovery.Text

/-- It is the same work still, and what is new about it is not blank. -/
structure Work.Enriched (work result : Work) : Prop where
  key : result.key = work.key
  title : result.title = work.title
  author : result.author = work.author ∨ blank result.author.toList = false
  description : result.description = work.description ∨ blank result.description.toList = false
  cover : result.cover = work.cover ∨ result.cover ≠ ""
  genres : result.genres = work.genres ∨ ∀ genre ∈ result.genres, blank genre.toList = false

theorem Work.Enriched.refl (work : Work) : work.Enriched work :=
  ⟨rfl, rfl, .inl rfl, .inl rfl, .inl rfl, .inl rfl⟩

namespace DetailsRecipe

variable (recipe : DetailsRecipe) (page : WebPage) (work : Work)

/-- A detail is the known one, or it has a property that all has what the page yields. -/
theorem getD_bind_eq_or {α : Type} {P : α → Prop} (selectors : Option String)
    (yield? : String → Option α) (known : α) (h : ∀ list a, yield? list = some a → P a) :
    (selectors.bind yield?).getD known = known ∨ P ((selectors.bind yield?).getD known) := by
  cases hyield : selectors.bind yield? with
  | none => exact .inl rfl
  | some a =>
    obtain ⟨list, -, ha⟩ := Option.bind_eq_some_iff.mp hyield
    exact .inr (h list a ha)

/-- The details are enriched from the page as the recipe says. -/
theorem enriched_enrich : work.Enriched (recipe.enrich page work) where
  key := rfl
  title := rfl
  author := getD_bind_eq_or _ _ _ fun _ _ h ↦ WebPage.blank_of_firstText? h
  description := getD_bind_eq_or _ _ _ fun _ _ h ↦ WebPage.blank_of_firstText? h
  cover := getD_bind_eq_or _ _ _ fun _ _ h ↦ WebPage.ne_empty_of_firstImage? h
  genres := getD_bind_eq_or _ _ _ fun _ _ h ↦ WebPage.blank_of_mem_allTexts? h

variable {recipe page work}

/-- Known genres are lost exactly to a page that is blank where they should be. -/
theorem genres_enrich_eq_nil_iff (h : work.genres ≠ []) : (recipe.enrich page work).genres = [] ↔
    ∃ selectors, recipe.genres = some selectors ∧ page.OnlyBlank selectors := by
  have hgenres : (recipe.enrich page work).genres = [] ↔
      recipe.genres.bind page.allTexts? = some [] := by
    rw [enrich]
    cases recipe.genres.bind page.allTexts? with
    | none => simpa using h
    | some texts => simp
  simp only [hgenres, Option.bind_eq_some_iff, WebPage.allTexts?_eq_some_nil_iff]

end DetailsRecipe

namespace Source

variable {source : Source} {fetch : Fetch Id} {recipe : DetailsRecipe} {work : Work}

/-! ### Fetched pages -/

/-- A page that a link leads to is read. -/
theorem fromPage_of_ok {α : Type} {link url body : String} (hurl : source.LeadsTo link url)
    (hbody : fetch url = .ok body) (otherwise : α) (read : WebPage → α) :
    source.fromPage fetch link otherwise read = read (.ofText body source.baseUrl) := by
  rw [fromPage_eq, toOption_resolve_eq_some_iff.mpr hurl]
  change (Option.map _ (fetch url).toOption).getD otherwise = _
  rw [hbody]
  rfl

/-- If no page is read, then there is none that the link leads to. -/
theorem fromPage_eq_or {α : Type} (source : Source) (fetch : Fetch Id) (link : String)
    (otherwise : α) (read : WebPage → α) :
    source.fromPage fetch link otherwise read = otherwise ∨
      ∃ url body, source.LeadsTo link url ∧ fetch url = .ok body := by
  rw [fromPage_eq]
  cases hurl : (source.resolve link).toOption with
  | none => exact .inl rfl
  | some url =>
    cases hbody : fetch url with
    | ok body => exact .inr ⟨url, body, toOption_resolve_eq_some_iff.mp hurl, hbody⟩
    | error failure =>
      left
      change (Option.map _ (fetch url).toOption).getD otherwise = _
      rw [hbody]
      rfl

theorem detailsRecipe?_eq_some_iff : source.detailsRecipe? = some recipe ↔
    source.recipe.details = some recipe ∧ recipe.hasDetails = true :=
  Option.filter_eq_some_iff

/-! ### Details -/

/-- A work whose page can be fetched is enriched by it. -/
theorem details_of_ok {url body : String} (hrecipe : source.detailsRecipe? = some recipe)
    (hurl : source.LeadsTo work.key url) (hbody : fetch url = .ok body) :
    source.details fetch work = recipe.enrich (.ofText body source.baseUrl) work := by
  rw [details, hrecipe]
  exact fromPage_of_ok hurl hbody work fun page ↦ recipe.enrich page work

/-- A work stays as it is, or its page has been fetched. -/
theorem details_eq_or (source : Source) (fetch : Fetch Id) (work : Work) :
    source.details fetch work = work ∨ ∃ recipe url body,
      source.detailsRecipe? = some recipe ∧ source.LeadsTo work.key url ∧ fetch url = .ok body := by
  cases hrecipe : source.detailsRecipe? with
  | none => exact .inl (by rw [details, hrecipe]; rfl)
  | some recipe =>
    rw [details, hrecipe]
    refine (source.fromPage_eq_or fetch work.key work _).imp_right ?_
    rintro ⟨url, body, hurl, hbody⟩
    exact ⟨recipe, url, body, rfl, hurl, hbody⟩

/-- Fetching details keeps the work and puts nothing blank into it. Known genres are lost exactly to
a page that could be fetched and has nothing but blank elements where the recipe looks for them. -/
theorem enriched_details (source : Source) (fetch : Fetch Id) (work : Work) :
    work.Enriched (source.details fetch work).run ∧
      (work.genres ≠ [] → ((source.details fetch work).run.genres = [] ↔
        ∃ recipe selectors url body, source.recipe.details = some recipe ∧
          recipe.genres = some selectors ∧ source.LeadsTo work.key url ∧ fetch url = .ok body ∧
          (WebPage.ofText body source.baseUrl).OnlyBlank selectors)) := by
  constructor
  · rcases source.details_eq_or fetch work with h | ⟨recipe, url, body, hrecipe, hurl, hbody⟩
    · rw [h]
      exact .refl work
    · rw [details_of_ok hrecipe hurl hbody]
      exact recipe.enriched_enrich _ work
  · intro hknown
    constructor
    · intro hlost
      rcases source.details_eq_or fetch work with h | ⟨recipe, url, body, hrecipe, hurl, hbody⟩
      · rw [h] at hlost
        exact absurd hlost hknown
      · rw [details_of_ok hrecipe hurl hbody] at hlost
        obtain ⟨selectors, hselectors, hblank⟩ :=
          (DetailsRecipe.genres_enrich_eq_nil_iff hknown).mp hlost
        exact ⟨recipe, selectors, url, body, (detailsRecipe?_eq_some_iff.mp hrecipe).1, hselectors,
          hurl, hbody, hblank⟩
    · rintro ⟨recipe, selectors, url, body, hdetails, hselectors, hurl, hbody, hblank⟩
      have hrecipe : source.detailsRecipe? = some recipe := by
        rw [detailsRecipe?_eq_some_iff]
        exact ⟨hdetails, by simp [DetailsRecipe.hasDetails, hselectors]⟩
      rw [details_of_ok hrecipe hurl hbody]
      exact (DetailsRecipe.genres_enrich_eq_nil_iff hknown).mpr ⟨selectors, hselectors, hblank⟩

/-- A page with a genre on it is not blank, and the genre takes the place of the known one. -/
theorem enriched_details_new_genre :
    let work : Work := ⟨"https://a.example/n", "T", "", "", ["Known"], .unknown, ""⟩
    let source : Source := ⟨⟨⟨"A", "1.0.0", "en", "https://a.example", "", none⟩, none,
      some ⟨none, none, some ".g", none, none, none, none, none⟩, none⟩⟩
    let body := "<i class=g>New</i>"
    let fetch : Fetch Id := fun _ ↦ .ok body
    (source.details fetch work).run = { work with genres := ["New"] } ∧
      ¬ (WebPage.ofText body source.baseUrl).OnlyBlank ".g" := by
  intro work source body fetch
  have hnew : (source.details fetch work).run = { work with genres := ["New"] } := by
    decide +kernel
  refine ⟨hnew, fun hblank ↦ ?_⟩
  have hurl : source.LeadsTo work.key work.key := by
    rw [← toOption_resolve_eq_some_iff]
    decide +kernel
  have hlost := ((source.enriched_details fetch work).2 (by decide)).mpr
    ⟨_, _, _, _, rfl, rfl, hurl, rfl, hblank⟩
  rw [hnew] at hlost
  exact absurd hlost (by decide)

/-- A page with a blank element for genres takes the known one away. -/
theorem genres_lost_to_blank_element :
    let work : Work := ⟨"https://a.example/n", "T", "", "", ["Known"], .unknown, ""⟩
    let source : Source := ⟨⟨⟨"A", "1.0.0", "en", "https://a.example", "", none⟩, none,
      some ⟨none, none, some ".g", none, none, none, none, none⟩, none⟩⟩
    let fetch : Fetch Id := fun _ ↦ .ok "<i class=g> </i>"
    work.genres ≠ [] ∧ (source.details fetch work).run.genres = [] := by
  decide +kernel

end Source

end PluginRecovery
