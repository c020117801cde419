import Mathlib
import PluginRecovery.Analysis.Functions
import PluginRecovery.Proofs.Dictionary
import PluginRecovery.Proofs.Recipe.Identity
import PluginRecovery.Proofs.Trace.Chain

/-!
The identity that a plugin's properties tell. A field takes its text from the first of its keys with
a property that fits it (`Plugin.firstText?`), and a property of the metadata object hides one of
the class. `value_identityOf` is the identity as a whole, and `identity_functions` adds that it is
normalized, whatever the properties hold.
-/

set_option autoImplicit false
set_option relaxedAutoImplicit false

namespace PluginRecovery

open PluginRecovery.Text PluginRecovery.Script

/-! ### The text of a property -/

namespace Script.Plugin

/-- The value of a property: that in the metadata object if it has one of the name, fitting or not,
else that of the class. -/
def value? (plugin : Plugin) (key : String) : Option Value :=
  (plugin.metadata.bind fun literal ↦ Dictionary.get? literal.properties key).or
    (Dictionary.get? plugin.classProperties key)

/-- The text of a property, if it is not blank and is acceptable. -/
def text? (plugin : Plugin) (accepts : String → Bool) (key : String) : Option String :=
  ((plugin.value? key).map Value.text).filter fun text ↦ !blank text.toList && accepts text

/-- The text of the first of the keys that has one. -/
def firstText? (plugin : Plugin) (accepts : String → Bool) (keys : List String) : Option String :=
  keys.findSome? (plugin.text? accepts)

/-- A merged property is that of the metadata object, or else that of the class. -/
theorem get?_mergedProperties (plugin : Plugin) (key : String) :
    Dictionary.get? plugin.mergedProperties key = plugin.value? key := by
  obtain ⟨metadata, functions, classProperties⟩ := plugin
  cases metadata with
  | none => rfl
  | some literal => exact Dictionary.get?_overlay classProperties literal.properties key

/-- The text that is taken of properties has passed both tests. -/
theorem accepts_of_firstText? {plugin : Plugin} {accepts : String → Bool} {keys : List String}
    {text : String} (h : plugin.firstText? accepts keys = some text) :
    blank text.toList = false ∧ accepts text = true := by
  obtain ⟨key, -, htext⟩ := List.exists_of_findSome?_eq_some h
  simpa using (Option.filter_eq_some_iff.mp htext).2

end Script.Plugin

namespace Functions

/-- A chain of properties yields the text of the first key that has one. -/
theorem first?_propertyChain (plugin : Plugin) (field : String) (keys : List String)
    (accepts : String → Bool) (input : List Char) :
    (propertyChain field plugin.mergedProperties keys accepts).first? input =
      plugin.firstText? accepts keys := by
  have hstep (key : String) :
      ((propertyStep plugin.mergedProperties accepts key).attempt input).toOption =
        plugin.text? accepts key := by
    simp only [propertyStep, Plugin.get?_mergedProperties, Plugin.text?]
    cases plugin.value? key with
    | none => rfl
    | some value =>
      cases h : !blank value.text.toList && accepts value.text <;>
        simp [Option.filter, h, Except.toOption]
  rw [Chain.first?, propertyChain, List.findSome?_map]
  exact congrArg (List.findSome? · keys) (funext hstep)

/-! ### The identity -/

/-- The fields of the identity, each with the keys that it is looked for under. -/
theorem value_identityOf (plugin : Plugin) :
    (identityOf plugin.mergedProperties).value = {
      name := ((plugin.firstText? Field.anyCandidate ["name", "sourceName"]).or
        ((plugin.firstText? Field.anyCandidate ["id"]).map Identity.nameFromId)).getD Default.name
      version := (plugin.firstText? Identity.isVersion ["version"]).getD Default.version
      lang := (plugin.firstText? Identity.isLang ["lang", "language"]).getD Default.lang
      baseUrl := (plugin.firstText? startsWithHttp ["site", "sourceSite", "baseUrl", "url"]).getD ""
      icon := (plugin.firstText? Field.anyCandidate ["icon"]).getD ""
      id := plugin.firstText? Field.anyCandidate ["id"] } := by
  simp only [identityOf, Traced.value_bind, Chain.toOption_resolve, first?_propertyChain]
  cases plugin.firstText? Field.anyCandidate ["name", "sourceName"] with
  | some name =>
    simp only [Traced.value_bind, Traced.value_pure, Chain.value_resolveOr, first?_propertyChain]
    rfl
  | none =>
    cases plugin.firstText? Field.anyCandidate ["id"] <;>
      simp only [Traced.value_bind, Traced.value_pure, Chain.value_resolveOr,
        first?_propertyChain] <;>
      rfl

/-- Properties give a normalized identity, whatever they hold. -/
theorem isNormalized_identityOf (plugin : Plugin) :
    (identityOf plugin.mergedProperties).value.IsNormalized := by
  rw [value_identityOf]
  exact Identity.isNormalized_of_found (fun _ h ↦ (Plugin.accepts_of_firstText? h).2)
    (fun _ h ↦ (Plugin.accepts_of_firstText? h).2) (fun _ h ↦ (Plugin.accepts_of_firstText? h).2)
    _ _ _

/-- The identity that the properties tell is normalized, and its id is not blank. Each field but the
name is the text of the first of its keys whose property is not blank and acceptable, or its
default. -/
theorem identity_functions (plugin : Plugin) :
    let identity := (Scope.functions plugin).identity.value
    identity.IsNormalized ∧
      (∀ id ∈ identity.id, blank id.toList = false) ∧
      identity.version =
        (plugin.firstText? Identity.isVersion ["version"]).getD Default.version ∧
      identity.lang = (plugin.firstText? Identity.isLang ["lang", "language"]).getD Default.lang ∧
      identity.baseUrl =
        (plugin.firstText? startsWithHttp ["site", "sourceSite", "baseUrl", "url"]).getD "" ∧
      identity.icon = (plugin.firstText? Field.anyCandidate ["icon"]).getD "" ∧
      identity.id = plugin.firstText? Field.anyCandidate ["id"] := by
  have hvalue : (Scope.functions plugin).identity.value =
      (identityOf plugin.mergedProperties).value := rfl
  rw [hvalue]
  refine ⟨isNormalized_identityOf plugin, ?_⟩
  rw [value_identityOf]
  exact ⟨fun id hid ↦ (Plugin.accepts_of_firstText? hid).1, rfl, rfl, rfl, rfl, rfl⟩

/-- A language of the metadata object that is too long hides a fitting one of the class, and so the
next key counts. -/
example :
    let literal : ObjectLiteral := ⟨[("lang", .str "english"), ("language", .str "fr")], 0, 0⟩
    (Scope.functions ⟨some literal, [], [("lang", .str "de")]⟩).identity.value.lang = "fr" := by
  decide +kernel

end Functions

end PluginRecovery
