import Mathlib
import PluginRecovery.Proofs.Analysis.PropertyIdentity
import PluginRecovery.Proofs.Analysis.WholeTextIdentity

/-!
The name of a plugin. It comes from a cluster, from a chain of names, from the id, or is the
default. None of these is blank but the one that is made of the id, and that one is blank exactly
when the id has nothing but separators and white space (`blank_name_iff`).
-/

set_option autoImplicit false
set_option relaxedAutoImplicit false

namespace PluginRecovery

open PluginRecovery.Text PluginRecovery.Script

theorem Default.blank_name : blank Default.name.toList = false := by
  decide

/-! ### Names from properties -/

/-- The id that the name is made of: that of the properties, if none of them is a name. -/
def Script.Plugin.namingId? (plugin : Plugin) : Option String :=
  match plugin.firstText? Field.anyCandidate ["name", "sourceName"] with
  | some _ => none
  | none => plugin.firstText? Field.anyCandidate ["id"]

/-- The properties give a blank name exactly if it is made of an id with nothing but separators in
it. -/
theorem Functions.blank_name_identityOf (plugin : Plugin) :
    blank (identityOf plugin.mergedProperties).value.name.toList = true ↔
      ∃ id ∈ plugin.namingId?, ∀ c ∈ id.toList, isBlank c = true ∨ c ∈ Identity.separators := by
  rw [value_identityOf, Plugin.namingId?]
  cases hname : plugin.firstText? Field.anyCandidate ["name", "sourceName"] with
  | some name => simp [(Plugin.accepts_of_firstText? hname).1]
  | none =>
    cases plugin.firstText? Field.anyCandidate ["id"] with
    | some id => simpa using Identity.blank_nameFromId_iff id
    | none => simp [Default.blank_name]

/-! ### Names from the whole text -/

namespace WholeText

/-- The id that the name is made of: the one that is found, if it is not blank and neither a cluster
nor a name is found. -/
def namingId? (source : List Char) : Option String :=
  match clusterChain.first? source,
      (Chain.ofForms "metadata.name" nameForms isLongName).first? source with
  | none, none =>
    ((Chain.ofForms "metadata.id" idForms Field.anyCandidate).first? source).filter
      fun id ↦ !blank id.toList
  | _, _ => none

theorem blank_of_isLongName {name : String} (h : isLongName name = true) :
    blank name.toList = false := by
  rw [isLongName, Bool.and_eq_true, Bool.not_eq_true'] at h
  exact h.1

/-- The name is the one found, else one made of an id that is not blank, else the default. -/
theorem value_settleName (name id : Option String) :
    (settleName name id).value = (name.or ((id.filter fun id ↦ !blank id.toList).map
      Identity.nameFromId)).getD Default.name := by
  cases name with
  | some name => rfl
  | none =>
    cases id with
    | none => rfl
    | some id => cases hid : blank id.toList <;> simp [settleName, Option.filter, hid]

/-- The whole text gives a blank name exactly if it is made of an id with nothing but separators in
it. -/
theorem blank_name_identity (source : List Char) :
    blank (identity source).value.name.toList = true ↔
      ∃ id ∈ namingId? source, ∀ c ∈ id.toList, isBlank c = true ∨ c ∈ Identity.separators := by
  rw [value_identity, namingId?]
  cases hcluster : clusterChain.first? source with
  | some cluster =>
    have hname : blank (cluster.identity source).name.toList = false :=
      blank_of_isLongName (exists_search_of_cluster hcluster).1
    simp [hname]
  | none =>
    simp only [identityOfFields, Traced.value_bind, Traced.value_pure, Chain.toOption_resolve,
      value_settleName]
    cases hname : (Chain.ofForms "metadata.name" nameForms isLongName).first? source with
    | some name => simp [blank_of_isLongName (Chain.accepts_of_first?_ofForms hname)]
    | none =>
      cases ((Chain.ofForms "metadata.id" idForms Field.anyCandidate).first? source).filter
          fun id ↦ !blank id.toList with
      | some id => simpa using Identity.blank_nameFromId_iff id
      | none => simp [Default.blank_name]

end WholeText

/-! ### The name that an analysis finds -/

/-- The id that the analysis makes the name of, if it does. -/
def Strategy.namingId? : Strategy → List Char → Option String
  | .regex, source => WholeText.namingId? source
  | .structural, source => (Plugin.parse source).value.namingId?
  | .auto, source =>
    if (Plugin.parse source).value.metadata.isSome then (Plugin.parse source).value.namingId?
    else WholeText.namingId? source

/-- The name is blank exactly when it is made of an id with nothing but separators and white space:
whatever else it comes from, it is not. -/
theorem Strategy.blank_name_iff (strategy : Strategy) (source : List Char) :
    blank (strategy.analyze source).value.identity.name.toList = true ↔
      ∃ id ∈ strategy.namingId? source,
        ∀ c ∈ id.toList, isBlank c = true ∨ c ∈ Identity.separators := by
  cases strategy with
  | regex => exact WholeText.blank_name_identity source
  | structural => exact Functions.blank_name_identityOf (Plugin.parse source).value
  | auto =>
    rw [analyze, namingId?, Traced.value_bind]
    split_ifs
    · exact Functions.blank_name_identityOf (Plugin.parse source).value
    · exact WholeText.blank_name_identity source

/-- An id that is one hyphen makes a name that is one space, for each strategy. -/
theorem Strategy.name_of_hyphen :
    Strategy.all.map (fun strategy ↦
      (strategy.analyze "new P(\x7bid:'-'\x7d)".toList).value.identity.name) = [" ", " ", " "] := by
  decide +kernel

end PluginRecovery
