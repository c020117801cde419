import Mathlib
import PluginRecovery.Proofs.Text.Words
import PluginRecovery.Proofs.WebPage.Candidates

/-!
What the text of an element is made of. The element holds texts, in the order of the tree, and its
own text has the words of each of them. So its text is theirs with white space collapsed, as if
there were a space wherever one of them ends and the next begins (`toList_elementText_eq_collapsed`).
That is the text which they make as they follow each other exactly if no word is parted between two
of them (`elementText_collapses`), as happens where an element begins within a word
(`elementText_of_parted_word`).
-/

set_option autoImplicit false
set_option relaxedAutoImplicit false

namespace PluginRecovery

open PluginRecovery.Html PluginRecovery.Text

/-- The texts in an element, in the order of the tree, as characters. -/
def Html.Place.textChars (element : Place) : List (List Char) :=
  element.texts.map String.toList

namespace WebPage

theorem toList_elementText_eq_intercalate (element : Place) :
    (elementText element).toList = [' '].intercalate (element.textChars.flatMap words) := by
  rw [toList_elementText, Place.textChars, List.flatMap_map, List.intercalate]

/-- The text of an element is that of its texts with a space between one and the next, with white
space collapsed. -/
theorem toList_elementText_eq_collapsed (element : Place) :
    (elementText element).toList = collapsed ([' '].intercalate element.textChars) := by
  rw [toList_elementText_eq_intercalate, collapsed, words_intercalate_space]

theorem trimmed_elementText (element : Place) : Trimmed (elementText element).toList := by
  rw [toList_elementText_eq_collapsed]
  exact trimmed_collapsed _

/-- The text of an element has all characters of its texts but white space, in their order. It has
no white space but single spaces: for each run of white space within its texts, and where one of
them ends and the next begins. So it is the text that they make as they follow each other, with
white space collapsed, exactly if they do not part a word. -/
theorem elementText_collapses (element : Place) :
    let texts := element.textChars
    let shown := (elementText element).toList
    shown = collapsed ([' '].intercalate texts) ∧
      (shown = collapsed texts.flatten ↔ ¬ PartsWord texts) ∧
      (shown.filter fun c ↦ !isBlank c) = texts.flatten.filter fun c ↦ !isBlank c := by
  intro texts shown
  have hshown : shown = collapsed ([' '].intercalate texts) :=
    toList_elementText_eq_collapsed element
  refine ⟨hshown, ?_, ?_⟩
  · rw [hshown, collapsed_eq_iff, words_intercalate_space, ← words_flatten_eq_iff, eq_comm]
  · rw [hshown, filter_collapsed, filter_intercalate_space]

/-- An element that begins within a word parts it. -/
theorem elementText_of_parted_word :
    let page := WebPage.ofText "<p>hel<b>lo</b></p>" ""
    ∃ element ∈ page.matching "p", element.textChars = ["hel".toList, "lo".toList] ∧
      collapsed element.textChars.flatten = "hello".toList ∧
      (elementText element).toList ≠ collapsed element.textChars.flatten := by
  decide +kernel

end WebPage

end PluginRecovery
