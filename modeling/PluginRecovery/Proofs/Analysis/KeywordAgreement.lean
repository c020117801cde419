import Mathlib
import PluginRecovery.Proofs.Analysis.WellFormed

/-!
When the two scopes agree on the words of a field. In a whole script a word is read in any case, and
so a long s is read as an `s`. A candidate from a function is put in lower case first, and there a
long s stays what it is. So a candidate has a word of its field exactly when it spells the word in
any case without a long s (`Field.matchesKeyword_iff`). What a call in a whole script captures has a
word of the field in any case, and agrees with that unless it has a long s in it
(`WholeText.keyword_of_selector`).
-/

set_option autoImplicit false
set_option relaxedAutoImplicit false

namespace PluginRecovery

open PluginRecovery.Text PluginRecovery.Pattern

/-! ### Words in any case -/

/-- The long s, which is in lower case and differs from `s` only in case. -/
def longS : Char :=
  '\u017F'

/-- The text spells the word, each letter in one of its cases. -/
def Spells (word text : List Char) : Prop :=
  List.Forall₂ (fun letter c ↦ sameLetter letter c = true) word text

theorem toLower_of_isSmall {letter : Char} (h : IsSmall letter) : letter.toLower = letter := by
  have hascii : letter.toNat < 128 := Nat.lt_of_le_of_lt h.2 (by decide)
  exact forall_of_ofNat (P := fun c ↦ IsSmall c → c.toLower = c) (by decide) hascii h

/-- A small letter is the form of the characters in one of its cases but the long s. -/
theorem lowerForm_eq_singleton_iff_sameLetter {letter c : Char} (h : IsSmall letter) :
    lowerForm c = [letter] ↔ sameLetter letter c = true ∧ c ≠ longS := by
  rw [lowerForm_eq_singleton_iff h]
  simp only [sameLetter, toLower_of_isSmall h, Bool.or_eq_true, Bool.and_eq_true, beq_iff_eq]
  constructor
  · rintro (rfl | ⟨rfl, rfl⟩)
    · refine ⟨.inl (.inl rfl), ?_⟩
      rintro rfl
      exact absurd h (by decide)
    · exact ⟨.inr ⟨rfl, rfl⟩, by decide⟩
  · rintro ⟨(hlower | ⟨-, hlong⟩) | hkelvin, hne⟩
    · exact .inl hlower
    · exact absurd hlong hne
    · exact .inr hkelvin

/-- A text has the word as its lower-case form exactly if it spells the word without the long s,
which has no other form in lower case. -/
theorem forall₂_lowerForm_iff {word text : List Char} (hword : ∀ letter ∈ word, IsSmall letter) :
    List.Forall₂ (fun letter c ↦ lowerForm c = [letter]) word text ↔
      Spells word text ∧ longS ∉ text := by
  induction word generalizing text with
  | nil =>
    rw [Spells, List.forall₂_nil_left_iff, List.forall₂_nil_left_iff]
    exact ⟨fun h ↦ ⟨h, h ▸ List.not_mem_nil⟩, And.left⟩
  | cons letter word ih =>
    obtain ⟨hletter, hsmall⟩ := List.forall_mem_cons.mp hword
    cases text with
    | nil => simp [Spells]
    | cons c text =>
      rw [Spells, List.forall₂_cons, List.forall₂_cons, ih hsmall,
        lowerForm_eq_singleton_iff_sameLetter hletter, List.mem_cons, not_or]
      constructor
      · rintro ⟨⟨hc, hne⟩, hrest, hnotMem⟩
        exact ⟨⟨hc, hrest⟩, Ne.symm hne, hnotMem⟩
      · rintro ⟨⟨hc, hrest⟩, hne, hnotMem⟩
        exact ⟨⟨hc, Ne.symm hne⟩, hrest, hnotMem⟩

namespace Field

/-- The words of all fields are of small letters, and none ends in `i`. -/
theorem keywords_small : ∀ field ∈ all, ∀ word ∈ field.keywords,
    (∀ letter ∈ word.toList, IsSmall letter) ∧ word.toList.getLast? ≠ some 'i' := by
  have hwords : ∀ field ∈ all, ∀ word ∈ field.keywords,
      (word.toList.all fun letter ↦ IsSmall letter) = true ∧ word.toList.getLast? ≠ some 'i' := by
    decide +kernel
  intro field hfield word hword
  obtain ⟨hsmall, hi⟩ := hwords field hfield word hword
  exact ⟨fun letter hletter ↦ of_decide_eq_true (List.all_eq_true.mp hsmall letter hletter), hi⟩

/-- A candidate has a word of the field in it if it spells one in any case without a long s. -/
theorem matchesKeyword_iff {field : Field} (hfield : field ∈ all) (candidate : String) :
    field.matchesKeyword candidate = true ↔ ∃ word ∈ field.keywords, ∃ part,
      part <:+: candidate.toList ∧ Spells word.toList part ∧ longS ∉ part := by
  rw [matchesKeyword, List.any_eq_true]
  refine exists_congr fun word ↦ and_congr_right fun hword ↦ ?_
  obtain ⟨hsmall, hi⟩ := keywords_small field hfield word hword
  rw [Script.contains_iff_isInfix, isInfix_lower_iff hsmall hi]
  simp only [forall₂_lowerForm_iff hsmall]

/-- All fields but that of the works of a listing are found by calls only. -/
theorem forms_eq_nil : ∀ field ∈ all, field.name ≠ "search.selector" → field.forms = [] := by
  simp [all, searchItem, searchTitle, searchLink, searchCover, author, description, genres, status,
    detailsCover, chapters, content]

end Field

/-! ### Selectors of a whole script -/

namespace WholeText

/-- A selector that is found by a call in a whole script spells one of the field's words, in any
case. It passes for one with a word of the field when one of the words is spelled without a long s,
and so whenever there is no long s in it. -/
theorem keyword_of_selector {field : Field} (hfield : field ∈ Field.all)
    (hname : field.name ≠ "search.selector") {text : List Char} {found : String}
    (h : (selector field text).value = .ok found) :
    (∃ word ∈ field.keywords, ∃ part, part <:+: found.toList ∧ Spells word.toList part) ∧
    (field.matchesKeyword found = true ↔ ∃ word ∈ field.keywords, ∃ part,
      part <:+: found.toList ∧ Spells word.toList part ∧ longS ∉ part) ∧
    (longS ∉ found.toList → field.matchesKeyword found = true) := by
  have hspelled : ∃ word ∈ field.keywords, ∃ part,
      part <:+: found.toList ∧ Spells word.toList part := by
    have hfirst : (selector field text).value.toOption = some found := congrArg Except.toOption h
    rw [selector, Chain.toOption_resolve, Chain.first?_ofForms, Field.anchoredForms,
      Field.forms_eq_nil field hfield hname, List.nil_append, List.findSome?_map] at hfirst
    obtain ⟨form, -, hcapture⟩ := List.exists_of_findSome?_eq_some hfirst
    obtain ⟨word, hword, front, part, back, htext, haccepts⟩ :=
      Field.exists_word_of_capture?_anchoredCall (Option.filter_eq_some_iff.mp hcapture).1
    exact ⟨word, hword, part, ⟨front, back, htext.symm⟩, haccepts.of_anyCase⟩
  refine ⟨hspelled, Field.matchesKeyword_iff hfield found, fun hlong ↦ ?_⟩
  obtain ⟨word, hword, part, hpart, hspells⟩ := hspelled
  exact (Field.matchesKeyword_iff hfield found).mpr
    ⟨word, hword, part, hpart, hspells, fun hmem ↦ hlong (hpart.subset hmem)⟩

/-- An author's selector in capitals. -/
theorem keyword_of_selector_author :
    let text := "$('DIV.AUTHOR')".toList
    (Field.author ∈ Field.all ∧ Field.author.name ≠ "search.selector" ∧
      (selector Field.author text).value = .ok "DIV.AUTHOR" ∧ longS ∉ "DIV.AUTHOR".toList) ∧
    (∃ word ∈ Field.author.keywords, ∃ part,
      part <:+: "DIV.AUTHOR".toList ∧ Spells word.toList part) ∧
    Field.author.matchesKeyword "DIV.AUTHOR" = true := by
  intro text
  have hmem : Field.author ∈ Field.all := by simp [Field.all]
  have hname : Field.author.name ≠ "search.selector" := by decide
  have hlong : longS ∉ "DIV.AUTHOR".toList := by decide
  have hfound : (selector Field.author text).value = .ok "DIV.AUTHOR" := by
    decide +kernel
  obtain ⟨hspelled, -, hkeyword⟩ := keyword_of_selector hmem hname hfound
  exact ⟨⟨hmem, hname, hfound, hlong⟩, hspelled, hkeyword hlong⟩

/-- A selector that spells the field's word with a long s is found in a whole script, and does not
pass for one with the word. -/
theorem not_keyword_of_selector :
    ¬ ∀ field ∈ Field.all, field.name ≠ "search.selector" → ∀ text found,
      (selector field text).value.toOption = some found → field.matchesKeyword found = true := by
  intro h
  have hfound : (selector Field.status "$('\u017Ftatus')".toList).value.toOption =
      some "\u017Ftatus" := by
    decide +kernel
  have hkeyword := h Field.status (by simp [Field.all]) (by decide) _ _ hfound
  exact absurd hkeyword (by decide +kernel)

end WholeText

end PluginRecovery
