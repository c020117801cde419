import Mathlib
import PluginRecovery.Proofs.Script.TokenSequence

/-!
Slashes behind identifiers. Behind an identifier and a space a slash begins a regular expression
exactly if the identifier ends in `return` (`regexMayFollow_iff`), be it that word or a longer one.
Otherwise it divides, what follows is code, and a comment behind it goes. In a regular expression
the scan copies the next slash, whatever comes before it (`exists_kept_regex`), so the comment does
not go. `stripComments_division_iff` puts the two together, and `stripComments_division_myreturn` is
a division that is taken for a regular expression.
-/

set_option autoImplicit false
set_option relaxedAutoImplicit false

namespace PluginRecovery.Script

/-! ### Identifiers -/

/-- A letter, an underscore or a dollar sign. -/
def beginsIdentifier (c : Char) : Bool :=
  c.isAlpha || c == '_' || c == '$'

/-- A character that an identifier may begin with, or a digit. -/
def continuesIdentifier (c : Char) : Bool :=
  beginsIdentifier c || c.isDigit

/-- An identifier of ASCII characters. -/
def IsIdentifier (word : List Char) : Prop :=
  ∃ first rest, word = first :: rest ∧ beginsIdentifier first = true ∧
    ∀ c ∈ rest, continuesIdentifier c = true

variable {word : List Char}

theorem IsIdentifier.ne_nil (h : IsIdentifier word) : word ≠ [] := by
  obtain ⟨first, rest, rfl, -⟩ := h
  exact List.cons_ne_nil first rest

theorem IsIdentifier.continues (h : IsIdentifier word) :
    ∀ c ∈ word, continuesIdentifier c = true := by
  obtain ⟨first, rest, rfl, hfirst, hrest⟩ := h
  refine List.forall_mem_cons.mpr ⟨?_, hrest⟩
  rw [continuesIdentifier, hfirst, Bool.true_or]

/-- No character of an identifier means anything to the scan. -/
theorem not_mem_of_continuesIdentifier {c : Char} (h : continuesIdentifier c = true) :
    c ∉ quotes ∧ c ≠ '/' ∧ c ∉ asciiBlanks ∧ c ∉ expressionOpeners := by
  have hmarks : ∀ mark ∈ quotes ++ ['/'] ++ asciiBlanks ++ expressionOpeners,
      continuesIdentifier mark = false := by
    simp [quotes, asciiBlanks, expressionOpeners, continuesIdentifier, beginsIdentifier]
  have hnot : c ∉ quotes ++ ['/'] ++ asciiBlanks ++ expressionOpeners := fun hmem ↦
    absurd h (Bool.eq_false_iff.mp (hmarks c hmem))
  simpa only [List.mem_append, List.mem_singleton, not_or, and_assoc] using hnot

/-- A slash behind an identifier and a space begins a regular expression exactly if the identifier
ends in `return`. -/
theorem regexMayFollow_iff (h : IsIdentifier word) :
    RegexMayFollow (word ++ [' ']) ↔ "return".toList <:+ word := by
  have hchars (c : Char) (hc : c ∈ word) := not_mem_of_continuesIdentifier (h.continues c hc)
  have hspace : (word ++ [' ']).rdropWhile (fun c ↦ asciiBlanks.contains c) = word := by
    rw [List.rdropWhile_concat_pos _ _ _ (by decide), List.rdropWhile_eq_self_iff]
    intro hne
    simpa using (hchars _ (List.getLast_mem hne)).2.2.1
  have hopener : ¬ (word.getLast?.any fun c ↦ expressionOpeners.contains c) = true := by
    rw [List.getLast?_eq_some_getLast h.ne_nil, Option.any_some, List.contains_iff_mem]
    exact (hchars _ (List.getLast_mem h.ne_nil)).2.2.2
  rw [RegexMayFollow, hspace, or_iff_right h.ne_nil, or_iff_right hopener]

/-! ### Behind the slash -/

/-- Up to the next slash a regular expression is copied, and the slash too. -/
theorem exists_kept_regex {body : List Char} (hbody : '/' ∉ body) (inClass escaped : Bool)
    (before after : List Char) :
    ∃ rest, kept (.inside (.regex inClass) escaped) before (body ++ '/' :: after) =
      body ++ '/' :: rest := by
  induction body generalizing inClass escaped before with
  | nil => exact ⟨_, kept_inside_cons (.regex inClass) escaped before '/' after⟩
  | cons c body ih =>
    obtain ⟨hc, hbody⟩ : '/' ≠ c ∧ '/' ∉ body := by simpa using hbody
    have hinside : ∃ inClass' escaped',
        Enclosure.after (.regex inClass) escaped c = .inside (.regex inClass') escaped' := by
      unfold Enclosure.after Enclosure.afterPlain
      simp only [hc.symm, false_and, if_false]
      split_ifs
      all_goals exact ⟨_, _, rfl⟩
    obtain ⟨inClass', escaped', hafter⟩ := hinside
    obtain ⟨rest, hrest⟩ := ih hbody inClass' escaped' (before ++ [c])
    refine ⟨rest, ?_⟩
    rw [List.cons_append, kept_inside_cons, hafter, hrest, List.cons_append]

variable {tail comment : List Char}

/-- In code a line comment goes, up to the end of the text. -/
theorem kept_code_append_lineComment (htail : ∀ c ∈ tail, c ∉ quotes ∧ c ≠ '/')
    (hcomment : '\n' ∉ comment) (before : List Char) :
    kept .code before (tail ++ '/' :: '/' :: comment) = tail := by
  have hopen (before : List Char) : kept .code before ('/' :: '/' :: comment) = [] := by
    have hleft := kept_lineComment_append hcomment before []
    rw [List.append_nil, kept_nil] at hleft
    rw [kept, hleft]
  rw [copies_code_of_forall htail, hopen, List.append_nil]

/-- Behind an identifier and a slash, in a line without literals and other slashes, a comment up to
the end of the text goes exactly if the identifier does not end in `return`. -/
theorem stripComments_division_iff (hword : IsIdentifier word)
    (htail : ∀ c ∈ tail, c ∉ quotes ∧ c ≠ '/') (hcomment : '\n' ∉ comment) :
    stripComments (word ++ " / ".toList ++ tail ++ " //".toList ++ comment) =
        word ++ " / ".toList ++ tail ++ " ".toList ↔
      ¬ "return".toList <:+ word := by
  have hspace : ∀ c ∈ [' '], c ∉ quotes ∧ c ≠ '/' := by simp [quotes]
  have hfront : ∀ c ∈ word ++ [' '], c ∉ quotes ∧ c ≠ '/' := by
    refine List.forall_mem_append.mpr ⟨fun c hc ↦ ?_, hspace⟩
    obtain ⟨hquote, hslash, -⟩ := not_mem_of_continuesIdentifier (hword.continues c hc)
    exact ⟨hquote, hslash⟩
  have hdivisor : ∀ c ∈ [' '] ++ tail ++ [' '], c ∉ quotes ∧ c ≠ '/' :=
    List.forall_mem_append.mpr ⟨List.forall_mem_append.mpr ⟨hspace, htail⟩, hspace⟩
  have hsource : word ++ " / ".toList ++ tail ++ " //".toList ++ comment =
      (word ++ [' ']) ++ '/' :: ([' '] ++ tail ++ [' '] ++ '/' :: '/' :: comment) := by simp
  have hhead : ([' '] ++ tail ++ [' '] ++ '/' :: '/' :: comment).head? ≠ some '/' ∧
      ([' '] ++ tail ++ [' '] ++ '/' :: '/' :: comment).head? ≠ some '*' := by simp
  rw [hsource, stripComments_eq_kept, copies_code_of_forall hfront, List.nil_append,
    ← regexMayFollow_iff hword]
  by_cases hregex : RegexMayFollow (word ++ [' '])
  · -- The slash of the comment ends the regular expression, so that it is still there.
    have hslash : '/' ∉ [' '] ++ tail ++ [' '] := fun hmem ↦ (hdivisor '/' hmem).2 rfl
    obtain ⟨rest, hrest⟩ := exists_kept_regex hslash false false (word ++ [' '] ++ ['/'])
      ('/' :: comment)
    rw [kept_code_cons fun _ ↦ hhead, Place.afterCode_slash, if_pos hregex, hrest]
    simp [hregex]
  · rw [kept_division_append hregex hhead, kept_code_append_lineComment hdivisor hcomment]
    simp [hregex]

/-- An identifier that holds `return` and does not end in it, before brackets, a backslash and a
newline, and a comment that looks like a literal. -/
theorem stripComments_division_returned :
    let word := "_return$1".toList
    let tail := "[é\\(\n".toList
    let comment := "' /*".toList
    (IsIdentifier word ∧ (∀ c ∈ tail, c ∉ quotes ∧ c ≠ '/') ∧ '\n' ∉ comment ∧
      ¬ "return".toList <:+ word) ∧
      stripComments (word ++ " / ".toList ++ tail ++ " //".toList ++ comment) =
        word ++ " / ".toList ++ tail ++ " ".toList := by
  intro word tail comment
  have hword : IsIdentifier word :=
    ⟨'_', "return$1".toList, rfl, by decide, by simp [continuesIdentifier, beginsIdentifier]⟩
  have htail : ∀ c ∈ tail, c ∉ quotes ∧ c ≠ '/' := by simp [tail, quotes]
  have hcomment : '\n' ∉ comment := by decide
  have hreturn : ¬ "return".toList <:+ word := by decide
  exact ⟨⟨hword, htail, hcomment, hreturn⟩,
    (stripComments_division_iff hword htail hcomment).mpr hreturn⟩

/-- The slash behind an identifier that only ends in `return` is taken for the beginning of a
regular expression, so that the comment stays. -/
theorem stripComments_division_myreturn :
    let word := "myreturn".toList
    (IsIdentifier word ∧ word ≠ "return".toList) ∧
      stripComments (word ++ " / 2 //x".toList) ≠ word ++ " / 2 ".toList := by
  refine ⟨⟨⟨'m', "yreturn".toList, rfl, by decide, ?_⟩, by decide⟩, by decide +kernel⟩
  simp [continuesIdentifier, beginsIdentifier]

end PluginRecovery.Script
