import Mathlib
import PluginRecovery.Proofs.Text.Trimming
import PluginRecovery.WebPage.Candidates

/-!
What candidates find on a page. The text of an element is either empty or not blank
(`blank_elementText_iff`) and no address is empty (`ne_empty_of_address?`), so a first text and a
first image say something (`blank_of_firstText?`, `ne_empty_of_firstImage?`). Each of all texts does
so too (`blank_of_mem_allTexts?`), but there may be none of them: this is so on pages that are
`OnlyBlank` where the selectors point (`allTexts?_eq_some_nil_iff`).
-/

set_option autoImplicit false
set_option relaxedAutoImplicit false

namespace PluginRecovery

open PluginRecovery.Html PluginRecovery.Text

/-- What is yielded first is yielded by a candidate. -/
theorem exists_of_firstYield {α : Type} {selectors : String} {yield? : String → Option α} {a : α}
    (h : firstYield selectors yield? = some a) :
    ∃ candidate ∈ candidates selectors, yield? candidate = some a :=
  List.exists_of_findSome?_eq_some h

namespace WebPage

variable {page : WebPage} {selectors : String}

/-! ### Texts of elements -/

/-- The text of an element is the words of its text nodes with spaces between them. -/
theorem toList_elementText (element : Place) : (elementText element).toList =
    ((element.texts.flatMap fun text ↦ words text.toList).intersperse [' ']).flatten := by
  simp [elementText, String.toList_intercalate, List.intercalate, List.map_flatMap,
    Function.comp_def]

/-- The text of an element is blank only if it is empty. -/
theorem blank_elementText_iff (element : Place) :
    blank (elementText element).toList = true ↔ elementText element = "" := by
  constructor
  · intro h
    rw [toList_elementText, blank_intercalate_space, List.all_eq_true] at h
    have hnil : (element.texts.flatMap fun text ↦ words text.toList) = [] := by
      rw [List.eq_nil_iff_forall_not_mem]
      intro word hword
      obtain ⟨text, -, hmem⟩ := List.mem_flatMap.mp hword
      exact Bool.false_ne_true ((blank_of_mem_words hmem).symm.trans (h word hword))
    rw [← String.toList_eq_nil_iff, toList_elementText, hnil]
    rfl
  · intro h
    rw [h]
    rfl

/-- A text of an element that is not empty is not blank. -/
theorem blank_elementText {element : Place} (h : (!(elementText element).isEmpty) = true) :
    blank (elementText element).toList = false := by
  rw [← Bool.not_eq_true, blank_elementText_iff]
  intro hempty
  simp [hempty] at h

/-! ### Addresses -/

theorem ne_empty_of_address? {link address : String} (h : page.address? link = some address) :
    address ≠ "" := by
  have htext (url : Url) : url.text ≠ "" := by
    rw [ne_eq, ← String.toList_eq_nil_iff]
    simp [Url.text]
  rw [address?] at h
  split at h
  · obtain rfl := Option.some.inj h
    exact htext _
  · obtain ⟨url, -, rfl⟩ := Option.map_eq_some_iff.mp h
    exact htext url

theorem ne_empty_of_addressIn? {element : Place} {label address : String}
    (h : page.addressIn? element label = some address) : address ≠ "" := by
  obtain ⟨value, -, h⟩ := Option.bind_eq_some_iff.mp h
  dsimp only at h
  split_ifs at h
  exact ne_empty_of_address? h

theorem ne_empty_of_imageOf? {element : Place} {address : String}
    (h : page.imageOf? element = some address) : address ≠ "" := by
  rw [imageOf?, Option.orElse_eq_orElse, Option.orElse_eq_or, Option.or_eq_some_iff] at h
  rcases h with h | ⟨-, h⟩
  all_goals exact ne_empty_of_addressIn? h

/-! ### What candidates yield -/

theorem blank_of_firstText? {text : String} (h : page.firstText? selectors = some text) :
    blank text.toList = false := by
  obtain ⟨candidate, -, h⟩ := exists_of_firstYield h
  obtain ⟨h, hne⟩ := Option.filter_eq_some_iff.mp h
  obtain ⟨element, -, rfl⟩ := Option.map_eq_some_iff.mp h
  exact blank_elementText hne

theorem ne_empty_of_firstImage? {address : String}
    (h : page.firstImage? selectors = some address) : address ≠ "" := by
  obtain ⟨candidate, -, h⟩ := exists_of_firstYield h
  obtain ⟨element, -, h⟩ := Option.bind_eq_some_iff.mp h
  exact ne_empty_of_imageOf? h

/-- All texts are those of the selected elements, if there are any, without the empty ones. -/
theorem allTexts?_eq_some_iff {texts : List String} : page.allTexts? selectors = some texts ↔
    page.select selectors ≠ [] ∧
      ((page.select selectors).map elementText).filter (!·.isEmpty) = texts := by
  have hyield : page.allTexts? selectors =
      (firstYield selectors fun candidate ↦
        (some (page.matching candidate)).filter (!·.isEmpty)).map fun elements ↦
          (elements.map elementText).filter (!·.isEmpty) := by
    rw [allTexts?, firstYield, firstYield, List.map_findSome?]
    congr 1
    funext candidate
    cases h : page.matching candidate <;> simp [h]
  rw [hyield, select]
  cases h : firstYield selectors fun candidate ↦
      (some (page.matching candidate)).filter (!·.isEmpty) with
  | none => simp
  | some elements =>
    obtain ⟨candidate, -, hcandidate⟩ := exists_of_firstYield h
    have hne := (Option.filter_eq_some_iff.mp hcandidate).2
    simpa using fun _ ↦ hne

/-- No text that is found is blank. -/
theorem blank_of_mem_allTexts? {texts : List String} (h : page.allTexts? selectors = some texts) :
    ∀ text ∈ texts, blank text.toList = false := by
  intro text htext
  rw [← (allTexts?_eq_some_iff.mp h).2] at htext
  obtain ⟨hmem, hne⟩ := List.mem_filter.mp htext
  obtain ⟨element, -, rfl⟩ := List.mem_map.mp hmem
  exact blank_elementText hne

/-- There are elements where the selectors point, but none of them shows a text. -/
def OnlyBlank (page : WebPage) (selectors : String) : Prop :=
  page.select selectors ≠ [] ∧ ∀ element ∈ page.select selectors, elementText element = ""

/-- A candidate whose elements are all blank is fruitful nevertheless, and all texts are none. -/
theorem allTexts?_eq_some_nil_iff :
    page.allTexts? selectors = some [] ↔ page.OnlyBlank selectors := by
  rw [allTexts?_eq_some_iff, OnlyBlank]
  simp [List.filter_eq_nil_iff]

end WebPage

end PluginRecovery
