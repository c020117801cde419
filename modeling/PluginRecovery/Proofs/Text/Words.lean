import Mathlib
import PluginRecovery.Proofs.Text.Trimming

/-!
The words of texts that are put together. White space parts words (`words_append_cons`), so texts
with spaces between them have the words of each (`words_intercalate_space`). Without anything
between them two texts have a word less when one goes on from the first into the second (`Meet`),
and the words of both otherwise (`words_append`). So texts that follow each other have the words of
each exactly if no two of them meet (`words_flatten_eq_iff`). A text whose white space is collapsed
(`collapsed`) tells the words apart (`collapsed_eq_iff`).
-/

set_option autoImplicit false
set_option relaxedAutoImplicit false

namespace PluginRecovery.Text

/-! ### White space between words -/

@[simp] theorem words_nil : words [] = [] := by
  rw [words, List.splitOnP_nil]
  rfl

/-- White space parts words. -/
theorem words_append_cons {c : Char} (hc : isBlank c = true) (front back : List Char) :
    words (front ++ c :: back) = words front ++ words back := by
  rw [words, List.splitOnP_append_cons front back hc, List.filter_append, words, words]

theorem words_cons_of_isBlank {c : Char} (hc : isBlank c = true) (text : List Char) :
    words (c :: text) = words text := by
  have happend := words_append_cons hc [] text
  rwa [words_nil, List.nil_append, List.nil_append] at happend

/-- A text without white space is a word. -/
theorem words_eq_singleton {word : List Char} (hne : word ≠ [])
    (hword : ∀ c ∈ word, isBlank c = false) : words word = [word] := by
  rw [words, List.splitOnP_eq_singleton hword, List.filter_cons_of_pos (by simp [hne]),
    List.filter_nil]

theorem ne_nil_of_mem_words {text word : List Char} (h : word ∈ words text) : word ≠ [] := by
  rintro rfl
  exact Bool.false_ne_true ((blank_of_mem_words h).symm.trans rfl)

theorem isBlank_of_mem_words {text word : List Char} (h : word ∈ words text) :
    ∀ c ∈ word, isBlank c = false :=
  eq_false_of_mem_splitOnP (List.mem_filter.mp h).1

/-- Texts with spaces between them have the words of each. -/
theorem words_intercalate_space (texts : List (List Char)) :
    words ([' '].intercalate texts) = texts.flatMap words := by
  induction texts with
  | nil => rfl
  | cons text texts ih =>
    cases texts with
    | nil => rw [List.intercalate_singleton, List.flatMap_singleton]
    | cons next texts =>
      rw [List.intercalate_cons_cons, List.append_assoc, List.singleton_append,
        words_append_cons rfl, ih, List.flatMap_cons, List.flatMap_cons, List.flatMap_cons]

theorem filter_intercalate_space (texts : List (List Char)) :
    (([' '].intercalate texts).filter fun c ↦ !isBlank c) =
      texts.flatten.filter fun c ↦ !isBlank c := by
  induction texts with
  | nil => rfl
  | cons text texts ih =>
    have hspace : ([' '].filter fun c ↦ !isBlank c) = [] := rfl
    cases texts with
    | nil => rw [List.intercalate_singleton, List.flatten_singleton]
    | cons next texts =>
      rw [List.intercalate_cons_cons, List.filter_append, List.filter_append, hspace,
        List.append_nil, ih, ← List.filter_append]
      rfl

/-- The words of a text have all its characters but white space. -/
theorem flatten_words (text : List Char) :
    (words text).flatten = text.filter fun c ↦ !isBlank c := by
  rw [words, List.flatten_filter_not_isEmpty]
  induction text with
  | nil => rfl
  | cons c text ih =>
    rw [List.splitOnP_cons_eq_if_modifyHead]
    by_cases hc : isBlank c = true
    · rw [if_pos hc, List.flatten_cons, ih, List.filter_cons_of_neg (by simp [hc])]
      rfl
    · obtain ⟨first, parts, hparts⟩ :=
        List.exists_cons_of_ne_nil (List.splitOnP_ne_nil isBlank text)
      rw [hparts] at ih
      rw [if_neg hc, hparts, List.filter_cons_of_pos (by simp [hc]), ← ih]
      rfl

/-! ### Words across texts -/

/-- A word goes on from the one text into the other: there is no white space at the end of the one
or at the beginning of the other. -/
def Meet (front back : List Char) : Prop :=
  (∃ c ∈ front.getLast?, isBlank c = false) ∧ ∃ c ∈ back.head?, isBlank c = false

/-- A character before a text makes a word of its own, or the first word longer. -/
theorem words_cons_of_not_isBlank {c : Char} (hc : isBlank c = false) (text : List Char) :
    words (c :: text) = if ∃ d ∈ text.head?, isBlank d = false then
      (words text).modifyHead (c :: ·) else [c] :: words text := by
  cases text with
  | nil => simpa using words_eq_singleton (List.cons_ne_nil c []) (by simpa using hc)
  | cons d text =>
    by_cases hd : isBlank d = true
    · have hword := words_eq_singleton (List.cons_ne_nil c []) (by simpa using hc)
      rw [if_neg (by simp [hd]), words_cons_of_isBlank hd, ← List.singleton_append,
        words_append_cons hd, hword, List.singleton_append]
    · obtain ⟨first, parts, hparts⟩ :=
        List.exists_cons_of_ne_nil (List.splitOnP_ne_nil isBlank text)
      rw [if_pos (by simpa using hd)]
      simp [words, List.splitOnP_cons_eq_if_modifyHead, hc, hd, hparts]

/-- Texts that do not meet have the words of each. -/
theorem words_append {front back : List Char} (h : ¬ Meet front back) :
    words (front ++ back) = words front ++ words back := by
  rcases List.eq_nil_or_concat front with rfl | ⟨front, c, rfl⟩
  · rw [words_nil, List.nil_append, List.nil_append]
  · cases back with
    | nil => rw [words_nil, List.append_nil, List.append_nil]
    | cons d back =>
      by_cases hc : isBlank c = true
      · have hfront := words_append_cons hc front []
        rw [words_nil, List.append_nil] at hfront
        rw [List.concat_eq_append, hfront, List.append_assoc, List.singleton_append,
          words_append_cons hc]
      · have hd : isBlank d = true := by
          by_contra hd
          exact h ⟨⟨c, by simp, by simpa using hc⟩, d, rfl, by simpa using hd⟩
        rw [words_append_cons hd, words_cons_of_isBlank hd]

/-- Texts that meet have a word less than both together. -/
theorem length_words_append {front back : List Char} (h : Meet front back) :
    (words (front ++ back)).length + 1 = (words front).length + (words back).length := by
  obtain ⟨⟨c, hlast, hc⟩, hback⟩ := h
  induction front with
  | nil => exact absurd hlast (by simp)
  | cons e front ih =>
    cases front with
    | nil =>
      obtain rfl : e = c := by simpa using hlast
      have hword := words_eq_singleton (List.cons_ne_nil e []) (by simpa using hc)
      rw [List.singleton_append, words_cons_of_not_isBlank hc, if_pos hback,
        List.length_modifyHead, hword, List.length_singleton, Nat.add_comm]
    | cons d front =>
      have ih := ih (by simpa using hlast)
      rw [List.cons_append]
      by_cases he : isBlank e = true
      · rw [words_cons_of_isBlank he, words_cons_of_isBlank he, ih]
      · rw [words_cons_of_not_isBlank (by simpa using he),
          words_cons_of_not_isBlank (by simpa using he)]
        have hhead : (d :: front ++ back).head? = (d :: front).head? := rfl
        rw [hhead]
        split_ifs
        · rw [List.length_modifyHead, List.length_modifyHead, ih]
        · rw [List.length_cons, List.length_cons]
          omega

/-- Two texts have no more words together than apart. -/
theorem length_words_append_le (front back : List Char) :
    (words (front ++ back)).length ≤ (words front).length + (words back).length := by
  by_cases h : Meet front back
  · exact (Nat.le_succ _).trans (length_words_append h).le
  · rw [words_append h, List.length_append]

theorem length_words_flatten_le (texts : List (List Char)) :
    (words texts.flatten).length ≤ (texts.flatMap words).length := by
  induction texts with
  | nil => exact Nat.le_refl _
  | cons text texts ih =>
    rw [List.flatten_cons, List.flatMap_cons, List.length_append]
    exact (length_words_append_le text texts.flatten).trans (Nat.add_le_add_left ih _)

/-- A word of the texts as they follow each other is parted between two of them. -/
def PartsWord (texts : List (List Char)) : Prop :=
  ∃ front back, texts = front ++ back ∧ Meet front.flatten back.flatten

theorem PartsWord.cons {texts : List (List Char)} (h : PartsWord texts) (text : List Char) :
    PartsWord (text :: texts) := by
  obtain ⟨front, back, rfl, ⟨c, hlast, hc⟩, hhead⟩ := h
  refine ⟨text :: front, back, rfl, ⟨c, ?_, hc⟩, hhead⟩
  rw [List.flatten_cons, List.getLast?_append, Option.mem_def.mp hlast]
  rfl

/-- Texts that follow each other have the words of each exactly if none is parted. -/
theorem words_flatten_eq_iff (texts : List (List Char)) :
    words texts.flatten = texts.flatMap words ↔ ¬ PartsWord texts := by
  constructor
  · -- Where a word is parted there is one less, and nowhere one more.
    rintro hwords ⟨front, back, rfl, hmeet⟩
    have hless := length_words_append hmeet
    have hfront := length_words_flatten_le front
    have hback := length_words_flatten_le back
    have hlength := congrArg List.length hwords
    rw [List.flatten_append, List.flatMap_append, List.length_append] at hlength
    omega
  · intro h
    induction texts with
    | nil => rfl
    | cons text texts ih =>
      have hmeet : ¬ Meet text texts.flatten := fun hmeet ↦
        h ⟨[text], texts, rfl, by rwa [List.flatten_singleton]⟩
      rw [List.flatten_cons, words_append hmeet, ih fun hparts ↦ h (hparts.cons text),
        List.flatMap_cons]

/-! ### Collapsed white space -/

/-- The text with a space for each run of white space in it, and none for those at its ends. -/
def collapsed (text : List Char) : List Char :=
  [' '].intercalate (words text)

/-- A text keeps its words when it is collapsed. -/
theorem words_collapsed (text : List Char) : words (collapsed text) = words text := by
  have hwords : ∀ word ∈ words text, words word = [word] := fun word hword ↦
    words_eq_singleton (ne_nil_of_mem_words hword) (isBlank_of_mem_words hword)
  rw [collapsed, words_intercalate_space, List.flatMap_congr hwords, List.flatMap_singleton']

/-- Collapsed texts are equal exactly if they have the same words. -/
theorem collapsed_eq_iff {text other : List Char} :
    collapsed text = collapsed other ↔ words text = words other := by
  constructor
  · intro h
    rw [← words_collapsed text, h, words_collapsed]
  · intro h
    rw [collapsed, h, collapsed]

/-- Of a text only white space is collapsed. -/
theorem filter_collapsed (text : List Char) :
    ((collapsed text).filter fun c ↦ !isBlank c) = text.filter fun c ↦ !isBlank c := by
  rw [← flatten_words, words_collapsed, flatten_words]

/-- Pieces that are trimmed and not empty are trimmed as a whole, with spaces between them. -/
theorem trimmed_intercalate_space {parts : List (List Char)}
    (h : ∀ part ∈ parts, part ≠ [] ∧ Trimmed part) : Trimmed ([' '].intercalate parts) := by
  induction parts with
  | nil => exact trimmed_of_forall (by simp)
  | cons part parts ih =>
    obtain ⟨⟨hne, hpart⟩, hparts⟩ := List.forall_mem_cons.mp h
    cases parts with
    | nil => rwa [List.intercalate_singleton]
    | cons next parts =>
      have hrest : [' '].intercalate (next :: parts) ≠ [] := by
        have hnext := (hparts next List.mem_cons_self).1
        cases parts <;> simp [hnext]
      rw [List.intercalate_cons_cons]
      constructor
      · rw [List.append_assoc, List.head?_append_of_ne_nil _ hne]
        exact hpart.1
      · rw [List.getLast?_append_of_ne_nil _ hrest]
        exact (ih hparts).2

theorem trimmed_collapsed (text : List Char) : Trimmed (collapsed text) :=
  trimmed_intercalate_space fun _ hword ↦
    ⟨ne_nil_of_mem_words hword, trimmed_of_forall (isBlank_of_mem_words hword)⟩

end PluginRecovery.Text
