import Mathlib
import PluginRecovery.Analysis.Analyzer
import PluginRecovery.Proofs.Trace.Chain

/-!
The recipe that a scope yields, without the events. Each part is read from one text of the scope
(`value_searchRecipe`, `value_detailsRecipe`, `value_contentRecipe`), and in it each selector is the
one that the scope finds, or the field's default (`value_selector`). An analysis takes the recipe of
the one scope that its strategy chooses (`Strategy.value_analyze`).
-/

set_option autoImplicit false
set_option relaxedAutoImplicit false

namespace PluginRecovery

namespace Analysis

variable (scope : Scope) (field : Field) (text : List Char)

/-- A selector is the one that is found, else the default. -/
theorem value_selector : (selector scope field text).value =
    (scope.selector field text).value.toOption.or field.default := by
  rw [selector, Traced.value_bind]
  cases (scope.selector field text).value with
  | ok found => rfl
  | error miss =>
    cases hdefault : field.default <;> rfl

theorem value_selectorOrBlank :
    (selectorOrBlank scope field text).value = (selector scope field text).value.getD "" :=
  rfl

/-- The forms of an address, of which the first that fits counts. -/
def urlTemplateChain : Chain String :=
  Chain.ofForms "search.url" urlTemplateForms isTemplate

/-- The listing is read from the text for it, if the scope has one. -/
theorem value_searchRecipe : (searchRecipe scope).value =
    scope.searchText.value.map fun text ↦ {
      urlTemplate := (urlTemplateChain.first? text).getD Default.urlTemplate
      item := (selectorOrBlank scope Field.searchItem text).value
      title := (selectorOrBlank scope Field.searchTitle text).value
      link := (selectorOrBlank scope Field.searchLink text).value
      cover := (selector scope Field.searchCover text).value } := by
  rw [searchRecipe, Traced.value_bind]
  cases scope.searchText.value with
  | none => rfl
  | some text =>
    simp -implicitDefEqProofs only [Traced.value_bind, Traced.value_pure, Chain.value_resolveOr,
      Option.map_some, urlTemplateChain]

/-- The details that are read from a text. -/
def detailsIn : DetailsRecipe where
  author := some (selectorOrBlank scope Field.author text).value
  description := some (selectorOrBlank scope Field.description text).value
  genres := some (selectorOrBlank scope Field.genres text).value
  status := some (selectorOrBlank scope Field.status text).value
  cover := (selector scope Field.detailsCover text).value
  chapters := some (selectorOrBlank scope Field.chapters text).value
  chapterName := none
  chapterUrl := none

/-- The details are read from the text for them, if the scope has one, else they are its default. -/
theorem value_detailsRecipe : (detailsRecipe scope).value =
    (scope.detailsText.value.map (detailsIn scope)).getD scope.detailsDefault := by
  rw [detailsRecipe, Traced.value_bind]
  cases scope.detailsText.value <;> rfl

/-- The text of a chapter is found by the text for it, if the scope has one, else in the generic
place. -/
theorem value_contentRecipe : (contentRecipe scope).value =
    (scope.contentText.value.map fun text ↦
      ⟨(selectorOrBlank scope Field.content text).value, textJoin text⟩).getD
        ContentRecipe.generic := by
  rw [contentRecipe, Traced.value_bind]
  cases scope.contentText.value <;> rfl

end Analysis

/-- The parts of a recipe, each by itself. -/
theorem Scope.value_recipe (scope : Scope) : scope.recipe.value = {
    identity := scope.identity.value
    search := (Analysis.searchRecipe scope).value
    details := some (Analysis.detailsRecipe scope).value
    content := some (Analysis.contentRecipe scope).value } :=
  rfl

/-! ### The scope that is chosen -/

namespace Strategy

/-- The analysis looks at the whole text. -/
def readsWholeText : Strategy → List Char → Bool
  | .regex, _ => true
  | .structural, _ => false
  | .auto, source => (Script.Plugin.parse source).value.metadata.isNone

/-- The scope that the analysis looks at. -/
def scope (strategy : Strategy) (source : List Char) : Scope :=
  if strategy.readsWholeText source then Scope.wholeText source
  else Scope.functions (Script.Plugin.parse source).value

/-- The events of the parts of the script, if the strategy looks for them. -/
def partEvents : Strategy → List Char → List Event
  | .regex, _ => []
  | .structural, source | .auto, source => (Script.Plugin.parse source).events

/-- The recipe is that of the scope. -/
theorem value_analyze (strategy : Strategy) (source : List Char) :
    (strategy.analyze source).value = (strategy.scope source).recipe.value := by
  cases strategy with
  | regex => rw [analyze, scope, readsWholeText, if_pos rfl]
  | structural =>
    rw [analyze, Traced.value_bind, scope, readsWholeText, if_neg Bool.false_ne_true]
  | auto =>
    rw [analyze, Traced.value_bind, scope, readsWholeText]
    cases (Script.Plugin.parse source).value.metadata with
    | none => rw [Option.isSome_none, if_neg Bool.false_ne_true, Option.isNone_none, if_pos rfl]
    | some literal =>
      rw [Option.isSome_some, if_pos rfl, Option.isNone_some, if_neg Bool.false_ne_true]

/-- The events are those of the scope's recipe, behind those of the parts. -/
theorem events_analyze (strategy : Strategy) (source : List Char) :
    (strategy.analyze source).events =
      strategy.partEvents source ++ (strategy.scope source).recipe.events := by
  cases strategy with
  | regex => rw [analyze, scope, readsWholeText, if_pos rfl, partEvents, List.nil_append]
  | structural =>
    rw [analyze, Traced.events_bind, scope, readsWholeText, if_neg Bool.false_ne_true, partEvents]
  | auto =>
    rw [analyze, Traced.events_bind, scope, readsWholeText, partEvents]
    cases (Script.Plugin.parse source).value.metadata with
    | none => rw [Option.isSome_none, if_neg Bool.false_ne_true, Option.isNone_none, if_pos rfl]
    | some literal =>
      rw [Option.isSome_some, if_pos rfl, Option.isNone_some, if_neg Bool.false_ne_true]

end Strategy

end PluginRecovery
