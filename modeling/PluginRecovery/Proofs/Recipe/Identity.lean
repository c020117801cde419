import Mathlib
import PluginRecovery.Analysis.Scope
import PluginRecovery.Proofs.Text.LetterCase
import PluginRecovery.Proofs.Text.Trimming

/-!
Identities. The first part names the form that versions, languages and addresses have in a
normalized identity, and ties it to the checks of the analysis. The second is about names that are
made of an id: such a name is blank exactly when the id has nothing but separators and white space
(`blank_nameFromId_iff`).
-/

set_option autoImplicit false
set_option relaxedAutoImplicit false

namespace PluginRecovery.Identity

open PluginRecovery.Text

/-! ### Normalized identities -/

/-- The version is made of ASCII digits and points and is not empty, the language has two to five
characters, and the address is empty or begins with `http`. -/
structure IsNormalized (identity : Identity) : Prop where
  version : identity.version.toList ≠ [] ∧
    ∀ c ∈ identity.version.toList, c.isDigit = true ∨ c = '.'
  lang : 2 ≤ identity.lang.toList.length ∧ identity.lang.toList.length ≤ 5
  baseUrl : identity.baseUrl = "" ∨ "http".toList <+: identity.baseUrl.toList

/-- A version is not empty and has nothing but digits and points in it. -/
theorem isVersion_iff {version : String} :
    isVersion version = true ↔
      version.toList ≠ [] ∧ ∀ c ∈ version.toList, c.isDigit = true ∨ c = '.' := by
  simp [isVersion]

theorem isLang_iff {lang : String} :
    isLang lang = true ↔ 2 ≤ lang.toList.length ∧ lang.toList.length ≤ 5 := by
  simp [isLang]

theorem startsWithHttp_iff {url : String} :
    startsWithHttp url = true ↔ "http".toList <+: url.toList :=
  List.isPrefixOf_iff_prefix

theorem isVersion_default : isVersion Default.version = true := by
  decide

theorem isLang_default : isLang Default.lang = true := by
  decide

/-- What was found and is acceptable makes a normalized identity, with defaults for the rest. -/
theorem isNormalized_of_found {version lang url : Option String}
    (hversion : ∀ v ∈ version, isVersion v = true) (hlang : ∀ l ∈ lang, isLang l = true)
    (hurl : ∀ u ∈ url, startsWithHttp u = true) (name icon : String) (id : Option String) :
    IsNormalized ⟨name, version.getD Default.version, lang.getD Default.lang, url.getD "", icon,
      id⟩ := by
  constructor
  · rw [← isVersion_iff]
    cases version with
    | none => exact isVersion_default
    | some v => exact hversion v rfl
  · rw [← isLang_iff]
    cases lang with
    | none => exact isLang_default
    | some l => exact hlang l rfl
  · cases url with
    | none => exact .inl rfl
    | some u => exact .inr (startsWithHttp_iff.mp (hurl u rfl))

/-! ### Names made of an id -/

/-- The characters at which an id is cut into words. -/
def separators : List Char :=
  ['.', '-', '_']

/-- A capital letter makes no word blank. -/
theorem blank_capitalize (word : List Char) : blank (capitalize word) = blank word := by
  cases word with
  | nil => rfl
  | cons c rest =>
    have h := blank_upperForm c
    simp only [blank] at h
    simp [capitalize, blank, h]

/-- The words between separators are all blank when nothing but the separators is not. -/
theorem all_blank_splitOnP (isSeparator : Char → Bool) (text : List Char) :
    (text.splitOnP isSeparator).all blank = text.all fun c ↦ isBlank c || isSeparator c := by
  induction text with
  | nil => rfl
  | cons c text ih =>
    rw [List.splitOnP_cons_eq_if_modifyHead, List.all_cons, ← ih]
    cases hc : isSeparator c with
    | true => simp [blank]
    | false =>
      obtain ⟨word, words, hwords⟩ :=
        List.exists_cons_of_ne_nil (List.splitOnP_ne_nil isSeparator text)
      simp [hwords, blank, Bool.and_assoc]

/-- A name made of an id is blank exactly when the id is made of separators and white space. -/
theorem blank_nameFromId_iff (id : String) :
    blank (nameFromId id).toList = true ↔
      ∀ c ∈ id.toList, isBlank c = true ∨ c ∈ separators := by
  have hcapitalize (words : List (List Char)) :
      (words.map capitalize).all blank = words.all blank := by
    simp [Function.comp_def, blank_capitalize]
  rw [nameFromId, String.toList_ofList, blank_intercalate_space, hcapitalize, all_blank_splitOnP]
  simp [separators, or_assoc]

end PluginRecovery.Identity
