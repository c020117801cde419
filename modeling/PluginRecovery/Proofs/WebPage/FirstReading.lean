import Mathlib
import PluginRecovery.WebPage.Candidates

/-!
Reading a value off the first of several elements that has one (`FirstRead`). Each candidate of a
list stands for the first element that it means below an item (`firstBelow`), so what candidates
yield in an item, or else the item itself, is read off a row of elements with the item at its end
(`findWithin_orElse_self`). When results are made of some of the items, they correspond to these in
order (`forall₂_filterMap`).
-/

set_option autoImplicit false
set_option relaxedAutoImplicit false

namespace PluginRecovery

open PluginRecovery.Html PluginRecovery.Text

variable {α : Type} {read : Place → Option α} {places : List Place} {value : α}

/-- The value is read off the first of the elements that has one. -/
def FirstRead (read : Place → Option α) (places : List Place) (value : α) : Prop :=
  ∃ before place after, places = before ++ place :: after ∧
    (∀ other ∈ before, read other = none) ∧ read place = some value

/-- The value is the first one exactly if the search among the elements finds it. -/
theorem firstRead_iff : FirstRead read places value ↔ places.findSome? read = some value := by
  rw [List.findSome?_eq_some_iff, FirstRead]
  simp only [and_comm]

/-- What holds of all that can be read holds of what is read. -/
theorem FirstRead.of_forall {P : α → Prop} (h : FirstRead read places value)
    (hread : ∀ {place value}, read place = some value → P value) : P value := by
  obtain ⟨before, place, after, -, -, hplace⟩ := h
  exact hread hplace

/-- The value is read off the first of the elements that has one, or is the other if none has. -/
def FirstReadOr (read : Place → Option α) (places : List Place) (otherwise value : α) : Prop :=
  FirstRead read places value ∨ (∀ place ∈ places, read place = none) ∧ value = otherwise

theorem firstReadOr_getD (read : Place → Option α) (places : List Place) (otherwise : α) :
    FirstReadOr read places otherwise ((places.findSome? read).getD otherwise) := by
  cases hread : places.findSome? read with
  | none => exact .inr ⟨List.findSome?_eq_none_iff.mp hread, rfl⟩
  | some value => exact .inl (firstRead_iff.mpr hread)

theorem FirstReadOr.of_forall {P : α → Prop} {otherwise : α}
    (h : FirstReadOr read places otherwise value)
    (hread : ∀ {place value}, read place = some value → P value) (hother : P otherwise) :
    P value := by
  rcases h with hfirst | ⟨-, rfl⟩
  · exact hfirst.of_forall hread
  · exact hother

/-! ### Candidates in an item -/

/-- Of each candidate the first element below the item that it means, if it means any. -/
def firstBelow (item : Place) (selectors : String) : List Place :=
  (candidates selectors).filterMap fun candidate ↦ (matchingBelow item candidate).head?

/-- The search below an item is one among the elements that the candidates mean there. -/
theorem findWithin_eq_findSome? (item : Place) (selectors : String) (read : Place → Option α) :
    findWithin item selectors read = (firstBelow item selectors).findSome? read := by
  rw [findWithin, firstYield, firstBelow, ← List.head?_filterMap, ← List.head?_filterMap,
    List.filterMap_filterMap]

/-- The first elements below the item that candidates mean, and the item after them. -/
def firstBelowOrSelf (item : Place) (selectors : String) : List Place :=
  firstBelow item selectors ++ [item]

theorem findWithin_orElse_self (item : Place) (selectors : String) (read : Place → Option α) :
    (findWithin item selectors read <|> read item) =
      (firstBelowOrSelf item selectors).findSome? read := by
  rw [Option.orElse_eq_orElse, Option.orElse_eq_or, findWithin_eq_findSome?, firstBelowOrSelf,
    List.findSome?_append, List.findSome?_singleton]

/-- The first elements below the item that candidates mean; none without candidates. -/
def firstBelow? (item : Place) (selectors : Option String) : List Place :=
  (selectors.map (firstBelow item)).getD []

theorem findWithin?_orElse (item : Place) (selectors : Option String) (places : List Place)
    (read : Place → Option α) :
    (selectors.bind (findWithin item · read) <|> places.findSome? read) =
      (firstBelow? item selectors ++ places).findSome? read := by
  rw [Option.orElse_eq_orElse, Option.orElse_eq_or, List.findSome?_append]
  cases selectors with
  | none => rfl
  | some selectors => rw [Option.bind_some, findWithin_eq_findSome?]; rfl

/-! ### Texts -/

/-- The text of an element, unless it is blank. -/
def shownText? (element : Place) : Option String :=
  nonBlank? (WebPage.elementText element)

theorem blank_of_shownText? {element : Place} {text : String} (h : shownText? element = some text) :
    blank text.toList = false := by
  rw [shownText?, nonBlank?] at h
  split_ifs at h with hblank
  rw [← Option.some.inj h]
  exact Bool.eq_false_iff.mpr hblank

/-! ### Rows of results -/

/-- The results are those of the items that have one, one for each and in order. -/
theorem forall₂_filterMap {β γ : Type} {f : β → Option γ} {kept : β → Bool} {R : β → γ → Prop}
    {items : List β} (hkept : ∀ b, kept b = (f b).isSome) (hf : ∀ b ∈ items, ∀ c ∈ f b, R b c) :
    List.Forall₂ R (items.filter kept) (items.filterMap f) := by
  induction items with
  | nil => exact .nil
  | cons item items ih =>
    obtain ⟨hitem, hitems⟩ := List.forall_mem_cons.mp hf
    cases hresult : f item with
    | none =>
      rw [List.filterMap_cons_none hresult, List.filter_cons_of_neg (by simp [hkept, hresult])]
      exact ih hitems
    | some result =>
      rw [List.filterMap_cons_some hresult, List.filter_cons_of_pos (by simp [hkept, hresult])]
      exact .cons (hitem result hresult) (ih hitems)

end PluginRecovery
