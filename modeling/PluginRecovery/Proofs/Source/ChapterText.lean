import Mathlib
import PluginRecovery.Proofs.Source.Refetching
import PluginRecovery.Proofs.WebPage.ElementText
import PluginRecovery.Proofs.WebPage.Selection

/-!
The text of a chapter against the elements of its page. It is made of the texts of the blocks that
the first fruitful candidate means, and of the body only when there are no blocks at all, be they
blank or not (`ShowsText`). Either way nothing is left to trim, so that there is one page with a
text that says something, or none (`pages_show`). The texts are joined in the order in which the
blocks were made, which need not be that in which they stand (`pages_out_of_place`).
-/

set_option autoImplicit false
set_option relaxedAutoImplicit false

namespace PluginRecovery

open PluginRecovery.Html PluginRecovery.Text

theorem WebPage.trimmed_bodyText (page : WebPage) : Trimmed page.bodyText.toList := by
  rw [bodyText]
  cases (page.matching "body").head? with
  | none => exact trimmed_of_forall (by simp)
  | some body => exact trimmed_elementText body

namespace ContentRecipe

/-- The texts of blocks, joined and trimmed. -/
def joined (recipe : ContentRecipe) (blocks : List Place) : List Char :=
  trim (recipe.textJoin.intercalate (blocks.map WebPage.elementText)).toList

/-- The text is what a page shows of a chapter: that of the blocks if there are any, else that of
the body. -/
structure ShowsText (recipe : ContentRecipe) (page : WebPage) (text : String) : Prop where
  of_blocks : page.select recipe.selector ≠ [] →
    text.toList = recipe.joined (page.select recipe.selector)
  of_body : page.select recipe.selector = [] → text = page.bodyText
  trimmed : Trimmed text.toList

/-- The text of a chapter is what the recipe shows of the page. -/
theorem showsText_text (recipe : ContentRecipe) (page : WebPage) :
    recipe.ShowsText page (recipe.text page) := by
  rw [text]
  cases hblocks : page.select recipe.selector with
  | nil => exact ⟨fun hne ↦ absurd hblocks hne, fun _ ↦ rfl, page.trimmed_bodyText⟩
  | cons block blocks =>
    have hjoined : (String.ofList (recipe.joined (block :: blocks))).toList =
        recipe.joined (page.select recipe.selector) := by
      rw [hblocks, String.toList_ofList]
    refine ⟨fun _ ↦ hjoined, fun hnil ↦ ?_, ?_⟩
    · rw [hnil] at hblocks
      exact absurd hblocks (List.cons_ne_nil block blocks).symm
    · dsimp only
      rw [String.toList_ofList]
      exact trimmed_trim _

/-- A chapter has one page, or none if it has no text. -/
theorem pages_eq (recipe : ContentRecipe) (page : WebPage) :
    recipe.pages page = if recipe.text page = "" then [] else [⟨recipe.text page⟩] := by
  simp [pages]

end ContentRecipe

namespace Source

variable {σ : Type} (source : Source) (fetch : Fetch (StateM σ)) (state : σ)

/-- Of a chapter whose page was got there is one page with the text that it shows, or none when
that text is empty. The blocks are what the first fruitful candidate means. -/
theorem pages_show (chapter : Chapter) {recipe : ContentRecipe} {address body : String}
    (hrecipe : source.recipe.content = some recipe) (haddress : source.LeadsTo chapter.key address)
    (hbody : fetch.reply state address = .ok body) :
    let page := WebPage.ofText body source.baseUrl
    let pages := ((source.pages fetch chapter).run state).1
    page.Selects recipe.selector (page.select recipe.selector) ∧
      ∃ text, recipe.ShowsText page text ∧ pages = if text = "" then [] else [⟨text⟩] := by
  intro page pages
  have hpages : pages = recipe.pages page := by
    dsimp only [pages]
    rw [Source.pages, hrecipe]
    exact run_fromPage_of_ok state haddress hbody _ _
  refine ⟨page.selects_select recipe.selector, recipe.text page, recipe.showsText_text page, ?_⟩
  rw [hpages, recipe.pages_eq]

/-- The first block is blank, so that the text begins with what joins it to the second. -/
theorem pages_show_blank_block :
    let recipe : ContentRecipe := ⟨".gone, .c", " - "⟩
    let source : Source :=
      ⟨⟨⟨"A", "1.0.0", "en", "https://a.example/", "", none⟩, none, none, some recipe⟩⟩
    let body := "<p class=c> </p><p class=c>One <b>two</b></p><p>Three</p>"
    let fetch : Fetch (StateM (List String)) := Fetch.recorded fun _ ↦ .ok body
    let chapter : Chapter := ⟨"https://a.example/1", "One", Decimal.singleOfNat 1⟩
    let page := WebPage.ofText body source.baseUrl
    let pages := ((source.pages fetch chapter).run []).1
    pages = [⟨"- One two"⟩] ∧ page.Selects recipe.selector (page.select recipe.selector) ∧
      ∃ text, recipe.ShowsText page text ∧ pages = if text = "" then [] else [⟨text⟩] := by
  intro recipe source body fetch chapter page pages
  have hrecipe : source.recipe.content = some recipe := rfl
  have haddress : source.LeadsTo chapter.key chapter.key := by
    rw [← toOption_resolve_eq_some_iff]
    decide +kernel
  have hbody : fetch.reply [] chapter.key = .ok body := rfl
  exact ⟨by decide +kernel, source.pages_show fetch [] chapter hrecipe haddress hbody⟩

/-- What a table cannot hold is moved before it, to where it stands before the cells that were made
earlier. So the text is not that of the blocks in the order in which these stand. -/
theorem pages_out_of_place :
    let recipe : ContentRecipe := ⟨".c", "\n\n"⟩
    let source : Source :=
      ⟨⟨⟨"A", "1.0.0", "en", "https://a.example/", "", none⟩, none, none, some recipe⟩⟩
    let body := "<table><tr><td class=c>One</td></tr><div class=c>Two</div></table>"
    let fetch : Fetch (StateM (List String)) := Fetch.recorded fun _ ↦ .ok body
    let chapter : Chapter := ⟨"https://a.example/1", "One", Decimal.singleOfNat 1⟩
    let page := WebPage.ofText body source.baseUrl
    let standing := page.document.standing.filter (Means ".c")
    page.bodyText = "Two One" ∧ page.document.cutOff = [] ∧
      recipe.joined standing = "Two\n\nOne".toList ∧
      ((source.pages fetch chapter).run []).1 = [⟨"One\n\nTwo"⟩] := by
  decide +kernel

end Source

end PluginRecovery
