import Mathlib
import PluginRecovery.Proofs.Decimal.Single
import PluginRecovery.Proofs.Source.Keys
import PluginRecovery.Proofs.WebPage.FirstReading
import PluginRecovery.Proofs.WebPage.Selection

/-!
The chapters of a work against the items of its page. What is known of a chapter is read off the
item that it is made of and off the position of that item among all of them (`ShowsAt`). Positions
are given to the items before those without a link are left out (`hasLink_iff`), so the numbers of
the chapters ascend and have a gap for each item that is left out (`chapters_show`). As positions go
by when items were made, the first chapter need not be that of the item that stands first
(`chapters_out_of_place`).
-/

set_option autoImplicit false
set_option relaxedAutoImplicit false

namespace PluginRecovery

open PluginRecovery.Html

namespace DetailsRecipe

variable {recipe : DetailsRecipe} {page : WebPage} {item : Place} {number : ℕ} {chapter : Chapter}

/-! ### Items -/

/-- The elements of an item that may have its link. -/
def linkPlaces (recipe : DetailsRecipe) (item : Place) : List Place :=
  firstBelowOrSelf item (recipe.chapterUrl.getD "a")

/-- The elements of an item that may have its name: those that the recipe means by one, the first
link, and the item. -/
def namePlaces (recipe : DetailsRecipe) (item : Place) : List Place :=
  firstBelow? item recipe.chapterName ++ firstBelowOrSelf item "a"

/-- The item has a link, from a candidate or of its own. -/
def HasLink (recipe : DetailsRecipe) (page : WebPage) (item : Place) : Prop :=
  ∃ place ∈ recipe.linkPlaces item, (page.linkOf? place).isSome

instance (recipe : DetailsRecipe) (page : WebPage) : DecidablePred (recipe.HasLink page) :=
  fun _ ↦ inferInstanceAs (Decidable (∃ _ ∈ _, _))

/-- The chapter is what the item at a position, counted from zero, shows. -/
structure ShowsAt (recipe : DetailsRecipe) (page : WebPage) (item : Place × ℕ) (chapter : Chapter) :
    Prop where
  key : FirstRead page.linkOf? (recipe.linkPlaces item.1) chapter.key
  number : chapter.number.value? = some (item.2 + 1 : ℚ)
  name : FirstReadOr shownText? (recipe.namePlaces item.1)
    ("Chapter " ++ toString (item.2 + 1)) chapter.name
  isAbsolute_key : IsAbsolute chapter.key
  name_not_blank : Text.blank chapter.name.toList = false

variable (recipe item number) in
/-- The title is the first text shown in one of the places for a name, else it is made of the
number. -/
theorem chapterTitle_eq : recipe.chapterTitle item number =
    ((recipe.namePlaces item).findSome? shownText?).getD ("Chapter " ++ toString number) := by
  rw [namePlaces, ← findWithin?_orElse, ← findWithin_orElse_self]
  rfl

variable (recipe page item number) in
theorem chapter?_eq : recipe.chapter? page item number =
    ((recipe.linkPlaces item).findSome? page.linkOf?).bind fun key ↦
      some ⟨key, recipe.chapterTitle item number, Decimal.singleOfNat number⟩ := by
  rw [linkPlaces, ← findWithin_orElse_self]
  rfl

variable (recipe page item number) in
/-- An item makes a chapter exactly if it has a link. -/
theorem hasLink_iff : recipe.HasLink page item ↔ (recipe.chapter? page item number).isSome := by
  rw [HasLink, ← List.findSome?_isSome_iff, chapter?_eq]
  cases (recipe.linkPlaces item).findSome? page.linkOf? <;> simp

theorem blank_chapter (n : ℕ) : Text.blank ("Chapter " ++ toString n).toList = false := by
  rw [String.toList_append, Text.blank, List.all_append]
  rfl

/-- A chapter shows what its item has. Below 2 ^ 24 its number is the place of the item, not
rounded. -/
theorem showsAt_of_chapter? {index : ℕ} (hbase : page.HasValidBase) (hindex : index + 1 < 2 ^ 24)
    (h : recipe.chapter? page item (index + 1) = some chapter) :
    recipe.ShowsAt page (item, index) chapter := by
  rw [chapter?_eq] at h
  obtain ⟨key, hkey, h⟩ := Option.bind_eq_some_iff.mp h
  obtain rfl := Option.some.inj h
  rw [← firstRead_iff] at hkey
  have hname := firstReadOr_getD shownText? (recipe.namePlaces item)
    ("Chapter " ++ toString (index + 1))
  rw [← chapterTitle_eq] at hname
  refine ⟨hkey, ?_, hname, hkey.of_forall hbase.isAbsolute_linkOf?,
    hname.of_forall blank_of_shownText? (blank_chapter (index + 1))⟩
  rw [Decimal.value?_singleOfNat hindex, Nat.cast_succ]

/-! ### Chapters -/

variable {selectors : String}

/-- The chapters of a page are what its items show at their positions, without the items that lack a
link. -/
theorem forall₂_chapterList (hbase : page.HasValidBase)
    (hfew : (page.select selectors).length < 2 ^ 24) :
    List.Forall₂ (recipe.ShowsAt page)
      ((page.select selectors).zipIdx.filter fun item ↦ recipe.HasLink page item.1)
      (recipe.chapterList page selectors) := by
  refine forall₂_filterMap (fun item ↦ ?_) fun ⟨item, index⟩ hitem chapter hchapter ↦ ?_
  · rw [Bool.eq_iff_iff, decide_eq_true_iff, hasLink_iff]
  · have hindex := List.snd_lt_of_mem_zipIdx hitem
    exact showsAt_of_chapter? hbase (by omega) hchapter

/-- The numbers ascend. -/
theorem pairwise_number {items : List Place} {chapters : List Chapter}
    (h : List.Forall₂ (recipe.ShowsAt page)
      (items.zipIdx.filter fun item ↦ recipe.HasLink page item.1) chapters) :
    chapters.Pairwise fun chapter next ↦ chapter.number.value? < next.number.value? := by
  have hnumbers : ((items.zipIdx.filter fun item ↦ recipe.HasLink page item.1).map
      fun item ↦ some (item.2 + 1 : ℚ)) = chapters.map fun chapter ↦ chapter.number.value? := by
    rw [← List.forall₂_eq_eq_eq]
    exact List.rel_map (fun _ _ hshows ↦ hshows.number.symm) h
  have hpositions : items.zipIdx.Pairwise fun item next ↦ item.2 < next.2 := by
    rw [← List.pairwise_map, List.zipIdx_map_snd]
    exact List.pairwise_lt_range'
  rw [← List.pairwise_map, ← hnumbers, List.pairwise_map]
  refine (hpositions.filter _).imp fun {item next} hlt ↦ ?_
  rw [Option.some_lt_some]
  gcongr

end DetailsRecipe

namespace Source

variable {σ : Type} (source : Source) (fetch : Fetch (StateM σ)) (state : σ)

/-- The chapters of a work whose page was got are what the items of that page show at their
positions, one for each that has a link, in the order of the items; so their numbers ascend. The
items are what the first fruitful candidate means, no more than single precision counts. -/
theorem chapters_show (work : Work) {recipe : DetailsRecipe} {selectors address body : String}
    (hrecipe : source.recipe.details = some recipe) (hselectors : recipe.chapters = some selectors)
    (haddress : source.LeadsTo work.key address) (hbody : fetch.reply state address = .ok body)
    (hfew : ((WebPage.ofText body source.baseUrl).select selectors).length < 2 ^ 24) :
    let page := WebPage.ofText body source.baseUrl
    let items := page.select selectors
    let chapters := ((source.chapters fetch work).run state).1
    page.Selects selectors items ∧
      List.Forall₂ (recipe.ShowsAt page)
        (items.zipIdx.filter fun item ↦ recipe.HasLink page item.1) chapters ∧
      chapters.Pairwise fun chapter next ↦ chapter.number.value? < next.number.value? := by
  intro page items chapters
  have hchapters : chapters = recipe.chapterList page selectors := by
    dsimp only [chapters]
    rw [Source.chapters, hrecipe]
    dsimp only
    rw [hselectors]
    exact run_fromPage_of_ok state haddress hbody _ _
  have hshows : List.Forall₂ (recipe.ShowsAt page) _ (recipe.chapterList page selectors) :=
    DetailsRecipe.forall₂_chapterList (WebPage.hasValidBase_ofText body source.baseUrl) hfew
  rw [hchapters]
  exact ⟨page.selects_select selectors, hshows, DetailsRecipe.pairwise_number hshows⟩

/-- The second item has no link and is left out, yet its position is. The name of the first chapter
is that of its link, as the element that is meant by a name is blank; the third item is a link
without a text, so its chapter is named after its number. -/
theorem chapters_show_gap :
    let recipe : DetailsRecipe :=
      ⟨none, none, none, none, none, some ".gone, .c", some ".n", none⟩
    let source : Source :=
      ⟨⟨⟨"A", "1.0.0", "en", "https://a.example/x/", "", none⟩, none, some recipe, none⟩⟩
    let body := "<p class=c><a href=1><b class=n> </b>One</a></p>" ++
      "<p class=c>Two</p><a class=c href=3> </a>"
    let fetch : Fetch (StateM (List String)) := Fetch.recorded fun _ ↦ .ok body
    let work : Work := ⟨"https://a.example/w", "T", "", "", [], .unknown, ""⟩
    let page := WebPage.ofText body source.baseUrl
    let items := page.select ".gone, .c"
    let chapters := ((source.chapters fetch work).run []).1
    chapters = [⟨"https://a.example/x/1", "One", Decimal.singleOfNat 1⟩,
        ⟨"https://a.example/x/3", "Chapter 3", Decimal.singleOfNat 3⟩] ∧
      page.Selects ".gone, .c" items ∧
      List.Forall₂ (recipe.ShowsAt page)
        (items.zipIdx.filter fun item ↦ recipe.HasLink page item.1) chapters ∧
      chapters.Pairwise fun chapter next ↦ chapter.number.value? < next.number.value? := by
  intro recipe source body fetch work page items chapters
  have hrecipe : source.recipe.details = some recipe := rfl
  have haddress : source.LeadsTo work.key work.key := by
    rw [← toOption_resolve_eq_some_iff]
    decide +kernel
  have hbody : fetch.reply [] work.key = .ok body := rfl
  have hfew : (page.select ".gone, .c").length < 2 ^ 24 := by decide +kernel
  exact ⟨by decide +kernel, source.chapters_show fetch [] work hrecipe rfl haddress hbody hfew⟩

/-- What a table cannot hold is moved before it, to where it stands before the cells that were made
earlier. So the chapters are not those of the items in the order in which these stand. -/
theorem chapters_out_of_place :
    let recipe : DetailsRecipe := ⟨none, none, none, none, none, some ".c", none, none⟩
    let source : Source :=
      ⟨⟨⟨"A", "1.0.0", "en", "https://a.example/", "", none⟩, none, some recipe, none⟩⟩
    let body := "<table><tr><td class=c><a href=1>One</a></td></tr>" ++
      "<div class=c><a href=2>Two</a></div></table>"
    let fetch : Fetch (StateM (List String)) := Fetch.recorded fun _ ↦ .ok body
    let work : Work := ⟨"https://a.example/w", "T", "", "", [], .unknown, ""⟩
    let page := WebPage.ofText body source.baseUrl
    let standing := page.document.standing.filter (Means ".c")
    page.bodyText = "Two One" ∧ page.document.cutOff = [] ∧
      ¬ List.Forall₂ (recipe.ShowsAt page)
        (standing.zipIdx.filter fun item ↦ recipe.HasLink page item.1)
        ((source.chapters fetch work).run []).1 := by
  intro recipe source body fetch work page standing
  refine ⟨by decide +kernel, by decide +kernel, fun hchapters ↦ ?_⟩
  let key? (item : Place × ℕ) : Option String := (recipe.linkPlaces item.1).findSome? page.linkOf?
  have hkeys : ((standing.zipIdx.filter fun item ↦ recipe.HasLink page item.1).map key?).Forall₂
      (· = ·) (((source.chapters fetch work).run []).1.map fun chapter ↦ some chapter.key) :=
    List.rel_map (fun _ _ hshows ↦ firstRead_iff.mp hshows.key) hchapters
  rw [List.forall₂_eq_eq_eq] at hkeys
  revert hkeys
  decide +kernel

end Source

end PluginRecovery
