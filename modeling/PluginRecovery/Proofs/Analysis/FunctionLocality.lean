import Mathlib
import PluginRecovery.Proofs.Analysis.PropertyIdentity
import PluginRecovery.Proofs.Analysis.ScopeRecipe

/-!
What the recipe of a plugin's functions depends on. The identity is a function of the merged
properties (`Functions.value_identityOf_congr`), and each other part of the body of one function,
the first that is defined of the names for it (`Functions.value_bodyOf`). So two plugins that agree
there have the same part, whatever else tells them apart (`Scope.recipe_functions_congr`).
-/

set_option autoImplicit false
set_option relaxedAutoImplicit false

namespace PluginRecovery

open PluginRecovery.Script

/-- The body of the first function that is defined of the names. -/
def Script.Plugin.body? (plugin : Plugin) (names : List String) : Option String :=
  (plugin.firstFunction? names).map Declaration.body

namespace Functions

/-- The text of a scope is the body of the first function of one of the names. -/
theorem value_bodyOf (plugin : Plugin) (field : String) (names : List String) :
    (bodyOf plugin field names).value = (plugin.body? names).map String.toList := by
  rw [bodyOf, Plugin.body?]
  cases plugin.firstFunction? names <;> rfl

/-- Plugins of the same properties have the same text for each of a field's keys. -/
theorem firstText?_congr {first second : Plugin}
    (h : ∀ key, Dictionary.get? first.mergedProperties key =
      Dictionary.get? second.mergedProperties key) :
    first.firstText? = second.firstText? := by
  have htext : first.text? = second.text? := by
    funext accepts key
    rw [Plugin.text?, Plugin.text?, ← Plugin.get?_mergedProperties, h,
      Plugin.get?_mergedProperties]
  funext accepts keys
  rw [Plugin.firstText?, Plugin.firstText?, htext]

/-- The identity depends on nothing but what is looked up among the properties. -/
theorem value_identityOf_congr {first second : Plugin}
    (h : ∀ key, Dictionary.get? first.mergedProperties key =
      Dictionary.get? second.mergedProperties key) :
    (identityOf first.mergedProperties).value = (identityOf second.mergedProperties).value := by
  rw [value_identityOf, value_identityOf, firstText?_congr h]

end Functions

namespace Analysis

/-! ### Scopes that find selectors alike -/

variable {first second : Scope} (hselector : first.selector = second.selector)

include hselector

/-- A selector that is looked for in a text depends on the text only. -/
theorem value_selector_congr (field : Field) (text : List Char) :
    (selector first field text).value = (selector second field text).value := by
  rw [value_selector, value_selector, hselector]

/-- The recipe of a listing depends on the body of the listing function only. -/
theorem value_searchRecipe_congr (h : first.searchText.value = second.searchText.value) :
    (searchRecipe first).value = (searchRecipe second).value := by
  simp only [value_searchRecipe, value_selectorOrBlank, value_selector_congr hselector, h]

/-- The recipe of details depends on the body of the details function, or on the default that stands
in for it. -/
theorem value_detailsRecipe_congr (h : first.detailsText.value = second.detailsText.value)
    (hdefault : first.detailsDefault = second.detailsDefault) :
    (detailsRecipe first).value = (detailsRecipe second).value := by
  have hin : detailsIn first = detailsIn second := by
    funext text
    simp only [detailsIn, value_selectorOrBlank, value_selector_congr hselector]
  rw [value_detailsRecipe, value_detailsRecipe, hin, h, hdefault]

/-- The recipe of a chapter depends on the body of the content function only. -/
theorem value_contentRecipe_congr (h : first.contentText.value = second.contentText.value) :
    (contentRecipe first).value = (contentRecipe second).value := by
  simp only [value_contentRecipe, value_selectorOrBlank, value_selector_congr hselector, h]

end Analysis

/-- Two plugins with the same merged properties have the same identity, and two whose first
functions for a part of the recipe have the same body, or that have no function for it, have the
same part. -/
theorem Scope.recipe_functions_congr (first second : Plugin) :
    let one := (Scope.functions first).recipe.value
    let other := (Scope.functions second).recipe.value
    ((∀ key, Dictionary.get? first.mergedProperties key =
        Dictionary.get? second.mergedProperties key) → one.identity = other.identity) ∧
      (first.body? Functions.searchNames = second.body? Functions.searchNames →
        one.search = other.search) ∧
      (first.body? Functions.detailsNames = second.body? Functions.detailsNames →
        one.details = other.details) ∧
      (first.body? Functions.contentNames = second.body? Functions.contentNames →
        one.content = other.content) := by
  have hbody {field : String} {names : List String} (h : first.body? names = second.body? names) :
      (Functions.bodyOf first field names).value = (Functions.bodyOf second field names).value := by
    rw [Functions.value_bodyOf, Functions.value_bodyOf, h]
  rw [value_recipe, value_recipe]
  refine ⟨fun h ↦ Functions.value_identityOf_congr h,
    fun h ↦ Analysis.value_searchRecipe_congr rfl (hbody h), fun h ↦ ?_, fun h ↦ ?_⟩
  · exact congrArg some (Analysis.value_detailsRecipe_congr rfl (hbody h) rfl)
  · exact congrArg some (Analysis.value_contentRecipe_congr rfl (hbody h))

/-- The one has its name in the metadata object, the other in its class. Their listings are
functions of different names, places and parameters with the same body, neither shows details, and
the other has one more function. -/
theorem Scope.recipe_functions_congr_apart :
    let first : Plugin := ⟨some ⟨[("name", .str "Foo")], 3, 9⟩,
      [("parseChapter", ⟨"parseChapter", [], "$('p.text')", true, 40, some 60⟩),
        ("search", ⟨"search", ["a", "b"], "$('.item')", false, 10, some 30⟩)], []⟩
    let second : Plugin := ⟨none,
      [("browse", ⟨"browse", [], "$('.item')", true, 0, none⟩),
        ("helper", ⟨"helper", [], "$('.novel')", false, 90, some 99⟩),
        ("parseChapter", ⟨"parseChapter", [], "$('p.text')", false, 1, some 2⟩)],
      [("name", .str "Foo")]⟩
    (first.mergedProperties = second.mergedProperties ∧
      ∀ names ∈ [Functions.searchNames, Functions.detailsNames, Functions.contentNames],
        first.body? names = second.body? names) ∧
      let one := (Scope.functions first).recipe.value
      let other := (Scope.functions second).recipe.value
      one.identity = other.identity ∧ one.search = other.search ∧ one.details = other.details ∧
        one.content = other.content := by
  intro first second
  have hproperties : first.mergedProperties = second.mergedProperties := rfl
  have hbodies : ∀ names ∈
      [Functions.searchNames, Functions.detailsNames, Functions.contentNames],
      first.body? names = second.body? names := by decide
  obtain ⟨hidentity, hsearch, hdetails, hcontent⟩ := Scope.recipe_functions_congr first second
  exact ⟨⟨hproperties, hbodies⟩, hidentity fun key ↦ by rw [hproperties],
    hsearch (hbodies _ (by simp)), hdetails (hbodies _ (by simp)), hcontent (hbodies _ (by simp))⟩

end PluginRecovery
