import Mathlib
import PluginRecovery.Proofs.Source.Keys
import PluginRecovery.Proofs.WebPage.FirstReading
import PluginRecovery.Proofs.WebPage.Selection

/-!
The works of a listing against the items of its page. What is known of a work is read off the item
that it is made of (`Shows`), its key and its title from the first elements that have one, and an
item is left out exactly if there is no such element for the key or none for the title
(`isShown_iff`). So the works of a search are those of the items that are shown, one for each
(`search_shows`). They come in the order of the items, which is that of their making, and need not
be the order in which they stand (`search_out_of_place`).
-/

set_option autoImplicit false
set_option relaxedAutoImplicit false

namespace PluginRecovery

open PluginRecovery.Html

namespace SearchRecipe

variable {recipe : SearchRecipe} {page : WebPage} {item : Place} {work : Work}

/-! ### Items -/

/-- The elements of an item that may have an image: those that the recipe means by a cover, and the
first image. -/
def coverPlaces (recipe : SearchRecipe) (item : Place) : List Place :=
  firstBelow? item recipe.cover ++ firstBelow item "img"

/-- The item has a link and a title, each from a candidate or of its own. -/
def IsShown (recipe : SearchRecipe) (page : WebPage) (item : Place) : Prop :=
  (∃ place ∈ firstBelowOrSelf item recipe.link, (page.linkOf? place).isSome) ∧
    ∃ place ∈ firstBelowOrSelf item recipe.title, (shownText? place).isSome

instance (recipe : SearchRecipe) (page : WebPage) : DecidablePred (recipe.IsShown page) :=
  fun _ ↦ inferInstanceAs (Decidable (_ ∧ _))

/-- The work is what the item shows. -/
structure Shows (recipe : SearchRecipe) (page : WebPage) (item : Place) (work : Work) : Prop where
  key : FirstRead page.linkOf? (firstBelowOrSelf item recipe.link) work.key
  title : FirstRead shownText? (firstBelowOrSelf item recipe.title) work.title
  cover : FirstReadOr page.imageOf? (recipe.coverPlaces item) "" work.cover
  isAbsolute_key : IsAbsolute work.key
  title_not_blank : Text.blank work.title.toList = false
  isAbsolute_cover : work.cover = "" ∨ IsAbsolute work.cover
  author : work.author = ""
  description : work.description = ""
  genres : work.genres = []
  status : work.status = .unknown

variable (recipe page item) in
theorem work?_eq : recipe.work? page item =
    ((firstBelowOrSelf item recipe.link).findSome? page.linkOf?).bind fun key ↦
      ((firstBelowOrSelf item recipe.title).findSome? shownText?).bind fun title ↦ some {
        key, title, cover := ((recipe.coverPlaces item).findSome? page.imageOf?).getD "" } := by
  rw [coverPlaces, ← findWithin?_orElse, ← findWithin_eq_findSome?, ← findWithin_orElse_self,
    ← findWithin_orElse_self]
  rfl

variable (recipe page item) in
/-- An item makes a work exactly if it has a link and a title. -/
theorem isShown_iff : recipe.IsShown page item ↔ (recipe.work? page item).isSome := by
  rw [IsShown, ← List.findSome?_isSome_iff, ← List.findSome?_isSome_iff, work?_eq]
  cases (firstBelowOrSelf item recipe.link).findSome? page.linkOf? with
  | none => simp
  | some key => cases (firstBelowOrSelf item recipe.title).findSome? shownText? <;> simp

/-- A work shows what its item has. -/
theorem shows_of_work? (hbase : page.HasValidBase) (h : recipe.work? page item = some work) :
    recipe.Shows page item work := by
  rw [work?_eq] at h
  obtain ⟨key, hkey, h⟩ := Option.bind_eq_some_iff.mp h
  obtain ⟨title, htitle, h⟩ := Option.bind_eq_some_iff.mp h
  obtain rfl := Option.some.inj h
  rw [← firstRead_iff] at hkey htitle
  have hcover := firstReadOr_getD page.imageOf? (recipe.coverPlaces item) ""
  have habsolute := hcover.of_forall (P := fun cover ↦ cover = "" ∨ IsAbsolute cover)
    (fun himage ↦ .inr (hbase.isAbsolute_imageOf? himage)) (.inl rfl)
  exact ⟨hkey, htitle, hcover, hkey.of_forall hbase.isAbsolute_linkOf?,
    htitle.of_forall blank_of_shownText?, habsolute, rfl, rfl, rfl, rfl⟩

/-- The works of a page are what its items show, without the items that lack a link or a title. -/
theorem forall₂_works (hbase : page.HasValidBase) :
    List.Forall₂ (recipe.Shows page)
      ((page.select recipe.item).filter (recipe.IsShown page ·)) (recipe.works page) :=
  forall₂_filterMap (fun item ↦ by rw [Bool.eq_iff_iff, decide_eq_true_iff, isShown_iff])
    fun _ _ _ ↦ shows_of_work? hbase

end SearchRecipe

namespace Source

variable {σ : Type} (source : Source) (fetch : Fetch (StateM σ)) (state : σ)

/-- The works of a search whose page was got are what the items of that page show, one for each that
has a link and a title, in the order of the items. These are what the first fruitful candidate
means. Another page may follow exactly if there are works. -/
theorem search_shows (filters : List Filter) (number : ℕ) {recipe : SearchRecipe}
    {address body : String} (hrecipe : source.recipe.search = some recipe)
    (haddress : source.LeadsTo
      (searchUrl recipe.urlTemplate source.baseUrl (Filter.query filters) number) address)
    (hbody : fetch.reply state address = .ok body) :
    let page := WebPage.ofText body source.baseUrl
    let listed := ((source.search fetch filters number).run state).1
    let items := page.select recipe.item
    page.Selects recipe.item items ∧
      List.Forall₂ (recipe.Shows page) (items.filter (recipe.IsShown page ·)) listed.works ∧
      (listed.hasNextPage ↔ listed.works ≠ []) := by
  intro page listed items
  have hlisted : listed = ⟨recipe.works page, !(recipe.works page).isEmpty⟩ := by
    dsimp only [listed]
    rw [search, hrecipe]
    exact run_fromPage_of_ok state haddress hbody _ _
  rw [hlisted]
  exact ⟨page.selects_select recipe.item,
    SearchRecipe.forall₂_works (WebPage.hasValidBase_ofText body source.baseUrl), by simp⟩

/-- An item with a link but no title and one with a text but no link are left out between two that
are shown, the second of which is a link itself and has an image that names no address. -/
theorem search_shows_between_dropped :
    let recipe : SearchRecipe := ⟨"https://a.example/s", ".gone, .i", "b, a", ".t, a", none⟩
    let source : Source :=
      ⟨⟨⟨"A", "1.0.0", "en", "https://a.example/x/", "", none⟩, some recipe, none, none⟩⟩
    let body := "<p class=i><a href=1><i class=t> </i>One</a><img data-src=1.png></p>" ++
      "<p class=i><a href=2> </a></p><p class=i>Three</p><a class=i href=4>Four<img src=' '></a>"
    let fetch : Fetch (StateM (List String)) := Fetch.recorded fun _ ↦ .ok body
    let page := WebPage.ofText body source.baseUrl
    let listed := ((source.search fetch [] 1).run []).1
    let items := page.select recipe.item
    listed.works =
        [⟨"https://a.example/x/1", "One", "", "", [], .unknown, "https://a.example/x/1.png"⟩,
          ⟨"https://a.example/x/4", "Four", "", "", [], .unknown, ""⟩] ∧
      listed.hasNextPage = true ∧ page.Selects recipe.item items ∧
      List.Forall₂ (recipe.Shows page) (items.filter (recipe.IsShown page ·)) listed.works := by
  intro recipe source body fetch page listed items
  have hrecipe : source.recipe.search = some recipe := rfl
  have haddress : source.LeadsTo
      (searchUrl recipe.urlTemplate source.baseUrl (Filter.query []) 1) "https://a.example/s" := by
    rw [← toOption_resolve_eq_some_iff]
    decide +kernel
  have hbody : fetch.reply [] "https://a.example/s" = .ok body := rfl
  obtain ⟨hitems, hworks, hnext⟩ := source.search_shows fetch [] [] 1 hrecipe haddress hbody
  have hlisted : listed.works =
      [⟨"https://a.example/x/1", "One", "", "", [], .unknown, "https://a.example/x/1.png"⟩,
        ⟨"https://a.example/x/4", "Four", "", "", [], .unknown, ""⟩] := by
    decide +kernel
  have hne : listed.works ≠ [] := by
    rw [hlisted]
    exact List.cons_ne_nil _ _
  exact ⟨hlisted, hnext.mpr hne, hitems, hworks⟩

/-- What a table cannot hold is moved before it, to where it stands before the cells that were made
earlier. So the works are not those of the items in the order in which these stand. -/
theorem search_out_of_place :
    let recipe : SearchRecipe := ⟨"https://a.example/s", ".c", "a", "a", none⟩
    let source : Source :=
      ⟨⟨⟨"A", "1.0.0", "en", "https://a.example/", "", none⟩, some recipe, none, none⟩⟩
    let body := "<table><tr><td class=c><a href=1>One</a></td></tr>" ++
      "<div class=c><a href=2>Two</a></div></table>"
    let fetch : Fetch (StateM (List String)) := Fetch.recorded fun _ ↦ .ok body
    let page := WebPage.ofText body source.baseUrl
    let standing := page.document.standing.filter (Means ".c")
    page.bodyText = "Two One" ∧ page.document.cutOff = [] ∧
      ¬ List.Forall₂ (recipe.Shows page) (standing.filter (recipe.IsShown page ·))
        ((source.search fetch [] 1).run []).1.works := by
  intro recipe source body fetch page standing
  refine ⟨by decide +kernel, by decide +kernel, fun hworks ↦ ?_⟩
  let title? (item : Place) : Option String :=
    (firstBelowOrSelf item recipe.title).findSome? shownText?
  have htitles : ((standing.filter (recipe.IsShown page ·)).map title?).Forall₂ (· = ·)
      (((source.search fetch [] 1).run []).1.works.map fun work ↦ some work.title) :=
    List.rel_map (fun _ _ hshows ↦ firstRead_iff.mp hshows.title) hworks
  rw [List.forall₂_eq_eq_eq] at htitles
  revert htitles
  decide +kernel

end Source

end PluginRecovery
