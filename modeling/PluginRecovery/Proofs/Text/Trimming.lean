import Mathlib
import PluginRecovery.Text.Blank

/-!
White space in texts. A text with none at its ends is trimmed already (`Trimmed.trim_eq`), and what
stands around a text is trimmed off as its own (`trim_padded`). What is left stands in the text
(`isInfix_trim`), and is nothing exactly when the text is blank (`trim_eq_nil_iff`). No word of a text is blank
(`blank_of_mem_words`), and texts with spaces between them are blank together when each of them is
(`blank_intercalate_space`).
-/

set_option autoImplicit false
set_option relaxedAutoImplicit false

namespace PluginRecovery.Text

/-- Neither end of the text is white space. -/
def Trimmed (text : List Char) : Prop :=
  (∀ c ∈ text.head?, isBlank c = false) ∧ ∀ c ∈ text.getLast?, isBlank c = false

theorem dropWhile_isBlank_eq_self {text : List Char} (h : ∀ c ∈ text.head?, isBlank c = false) :
    text.dropWhile isBlank = text := by
  cases text with
  | nil => rfl
  | cons c rest => rw [List.dropWhile_cons, h c rfl, if_neg Bool.false_ne_true]

theorem Trimmed.trim_eq {text : List Char} (h : Trimmed text) : trim text = text := by
  obtain ⟨hfirst, hlast⟩ := h
  rw [trim, trimStart, dropWhile_isBlank_eq_self hfirst, trimEnd, dropWhile_isBlank_eq_self,
    List.reverse_reverse]
  rwa [List.head?_reverse]

theorem isBlank_of_mem_head?_dropWhile {text : List Char} :
    ∀ c ∈ (text.dropWhile isBlank).head?, isBlank c = false := by
  intro c hc
  have hnot := List.head?_dropWhile_not isBlank text
  rw [hc] at hnot
  exact hnot

/-- A text that was trimmed has no white space at its ends. -/
theorem trimmed_trim (text : List Char) : Trimmed (trim text) := by
  constructor
  · -- The first character is still there when the end has been trimmed.
    intro c hc
    unfold trim trimEnd at hc
    rw [List.head?_reverse] at hc
    obtain ⟨front, hfront⟩ := List.dropWhile_suffix isBlank (l := (trimStart text).reverse)
    have hlast : (trimStart text).reverse.getLast? = some c := by
      rw [← hfront, List.getLast?_append, hc]
      rfl
    rw [List.getLast?_reverse] at hlast
    exact isBlank_of_mem_head?_dropWhile c hlast
  · intro c hc
    unfold trim trimEnd at hc
    rw [List.getLast?_reverse] at hc
    exact isBlank_of_mem_head?_dropWhile c hc

/-- What is left of a text stands in it. -/
theorem isInfix_trim (text : List Char) : trim text <:+: text := by
  have hend : trim text <+: trimStart text := by
    have hprefix := List.reverse_prefix.mpr
      (List.dropWhile_suffix isBlank (l := (trimStart text).reverse))
    rwa [List.reverse_reverse] at hprefix
  exact hend.isInfix.trans (List.dropWhile_suffix isBlank).isInfix

theorem length_trim_le (text : List Char) : (trim text).length ≤ text.length :=
  (isInfix_trim text).length_le

theorem trimmed_of_forall {text : List Char} (h : ∀ c ∈ text, isBlank c = false) : Trimmed text :=
  ⟨fun c hc ↦ h c (List.mem_of_mem_head? hc), fun c hc ↦ h c (List.mem_of_mem_getLast? hc)⟩

/-- Two texts make a trimmed one when the first begins and the second ends as such a text does. -/
theorem Trimmed.append {front back : List Char} (hfront : Trimmed front) (hback : Trimmed back)
    (hne : front ≠ []) (hne' : back ≠ []) : Trimmed (front ++ back) := by
  constructor
  · rw [List.head?_append_of_ne_nil _ hne]
    exact hfront.1
  · rw [List.getLast?_append_of_ne_nil _ hne']
    exact hback.2

theorem dropWhile_isBlank_of_blank {text : List Char} (h : blank text = true) :
    text.dropWhile isBlank = [] :=
  List.dropWhile_eq_nil_iff.mpr (List.all_eq_true.mp h)

/-- Nothing is left of a blank text. -/
theorem trim_of_blank {text : List Char} (h : blank text = true) : trim text = [] := by
  rw [trim, trimStart, dropWhile_isBlank_of_blank h]
  rfl

/-- Nothing is left of a text exactly when it is blank. -/
theorem trim_eq_nil_iff {text : List Char} : trim text = [] ↔ blank text = true := by
  refine ⟨fun h ↦ ?_, trim_of_blank⟩
  have hsplit := List.takeWhile_append_dropWhile (p := isBlank) (l := text)
  rw [trim, trimEnd, List.reverse_eq_nil_iff, List.dropWhile_eq_nil_iff] at h
  rw [← hsplit, blank, List.all_append, Bool.and_eq_true]
  exact ⟨List.all_takeWhile, List.all_eq_true.mpr fun c hc ↦ h c (List.mem_reverse.mpr hc)⟩

/-- White space in front is lost. -/
theorem trimStart_append_left {left : List Char} (h : blank left = true) (text : List Char) :
    trimStart (left ++ text) = trimStart text :=
  List.dropWhile_append_of_pos (List.all_eq_true.mp h)

theorem trimEnd_append_right {right : List Char} (h : blank right = true) (text : List Char) :
    trimEnd (text ++ right) = trimEnd text := by
  have hreverse : ∀ c ∈ right.reverse, isBlank c = true :=
    fun c hc ↦ List.all_eq_true.mp h c (List.mem_reverse.mp hc)
  rw [trimEnd, List.reverse_append, List.dropWhile_append_of_pos hreverse, trimEnd]

/-- Nothing is trimmed off in front of a character that is no white space. -/
theorem trimEnd_append_cons {c : Char} (h : isBlank c = false) (front back : List Char) :
    trimEnd (front ++ c :: back) = front ++ c :: trimEnd back := by
  have hfront : (c :: front.reverse).dropWhile isBlank = c :: front.reverse := by
    rw [List.dropWhile_cons, h, if_neg Bool.false_ne_true]
  rw [trimEnd, List.reverse_append, List.reverse_cons, List.append_assoc, List.singleton_append,
    List.dropWhile_append, hfront, trimEnd]
  split_ifs with hback
  · rw [List.isEmpty_iff.mp hback]
    simp
  · simp

/-- White space around a text is trimmed off with what the text has at its ends. -/
theorem trim_padded {left right : List Char} (hleft : blank left = true)
    (hright : blank right = true) (text : List Char) :
    trim (left ++ text ++ right) = trim text := by
  rw [trim, List.append_assoc, trimStart_append_left hleft, trim, trimStart, List.dropWhile_append]
  split_ifs with hblank
  · rw [dropWhile_isBlank_of_blank hright, trimStart, List.isEmpty_iff.mp hblank]
  · exact trimEnd_append_right hright _

/-- Only white space is lost at the end. -/
theorem exists_trimEnd_append (text : List Char) :
    ∃ right, blank right = true ∧ trimEnd text ++ right = text := by
  refine ⟨(text.reverse.takeWhile isBlank).reverse, ?_, ?_⟩
  · rw [blank, List.all_reverse]
    exact List.all_takeWhile
  · rw [trimEnd, ← List.reverse_append, List.takeWhile_append_dropWhile, List.reverse_reverse]

/-- Nothing is lost by trimming the end first. -/
theorem trim_trimEnd (text : List Char) : trim (trimEnd text) = trim text := by
  obtain ⟨right, hright, htext⟩ := exists_trimEnd_append text
  have htrim := @trim_padded [] right rfl hright (trimEnd text)
  rw [List.nil_append, htext] at htrim
  exact htrim.symm

/-- What stands between two characters that are not blank is trimmed together with them. -/
theorem trimmed_enclosed {first last : Char} (hfirst : isBlank first = false)
    (body : List Char) (hlast : isBlank last = false) : Trimmed (first :: body ++ [last]) := by
  constructor
  · intro c hc
    rwa [← Option.some.inj hc]
  · intro c hc
    rw [List.getLast?_append_of_ne_nil _ (List.cons_ne_nil last [])] at hc
    rwa [← Option.some.inj hc]

/-! ### Words -/

theorem eq_false_of_mem_splitOnP {p : Char → Bool} {text part : List Char}
    (h : part ∈ text.splitOnP p) : ∀ c ∈ part, p c = false := by
  induction text generalizing part with
  | nil =>
    obtain rfl := List.mem_singleton.mp h
    simp
  | cons c text ih =>
    rw [List.splitOnP_cons_eq_if_modifyHead] at h
    split_ifs at h with hc
    · rcases List.mem_cons.mp h with rfl | h
      · simp
      · exact ih h
    · obtain ⟨first, parts, hparts⟩ := List.exists_cons_of_ne_nil (List.splitOnP_ne_nil p text)
      rw [hparts] at ih h
      rcases List.mem_cons.mp h with rfl | h
      · exact List.forall_mem_cons.mpr ⟨Bool.eq_false_iff.mpr hc, ih List.mem_cons_self⟩
      · exact ih (List.mem_cons_of_mem first h)

theorem blank_of_mem_words {text word : List Char} (h : word ∈ words text) :
    blank word = false := by
  obtain ⟨hmem, hne⟩ := List.mem_filter.mp h
  cases word with
  | nil => exact absurd hne (by simp)
  | cons c rest =>
    have hc : isBlank c = false := eq_false_of_mem_splitOnP hmem c List.mem_cons_self
    simp [blank, hc]

/-- Texts with spaces between them are blank together when each of them is. -/
theorem blank_intercalate_space (texts : List (List Char)) :
    blank (texts.intersperse [' ']).flatten = texts.all blank := by
  induction texts with
  | nil => rfl
  | cons text texts ih =>
    cases texts with
    | nil => simp [blank]
    | cons next texts =>
      rw [List.intersperse_cons_cons, List.flatten_cons, List.flatten_cons, List.all_cons, ← ih]
      simp [blank, isBlank]

end PluginRecovery.Text
