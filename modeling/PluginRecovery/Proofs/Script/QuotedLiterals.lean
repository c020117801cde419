import Mathlib
import PluginRecovery.Proofs.Script.BraceMatching
import PluginRecovery.Proofs.Script.ValueReading

/-!
What a quoted literal denotes. A text without backslashes is written between quotes of one kind with
a backslash before these quotes, newlines and tabs (`quotedIn`). The reader replaces the escapes one
kind after the other, which here undoes the writing (`unescape_flatMap_escapeIn`). Before that it
drops quotes at the ends twice, first double ones and then single ones, so that single quotes which
belong to the contents of a double quoted literal go as well: `readValue?_quotedIn` says that this
is all that is lost, and when it is.
-/

set_option autoImplicit false
set_option relaxedAutoImplicit false

namespace PluginRecovery.Script

open PluginRecovery.Text

/-- A character as it is written between quotes of the given kind. -/
def escapeIn (quote c : Char) : List Char :=
  if c = quote then ['\\', quote]
  else if c = '\n' then ['\\', 'n']
  else if c = '\t' then ['\\', 't']
  else [c]

/-- A text without backslashes as a literal between quotes of the given kind. -/
def quotedIn (quote : Char) (text : List Char) : List Char :=
  quote :: text.flatMap (escapeIn quote) ++ [quote]

/-- A character is written as it is, or is the quote, a newline or a tab and gets a backslash. -/
theorem escapeIn_cases (quote c : Char) :
    escapeIn quote c = [c] ∨ escapeIn quote c = ['\\', quote] ∧ c = quote ∨
      escapeIn quote c = ['\\', 'n'] ∧ c = '\n' ∨ escapeIn quote c = ['\\', 't'] ∧ c = '\t' := by
  unfold escapeIn
  split_ifs with hquote hnewline htab
  · exact Or.inr (Or.inl ⟨rfl, hquote⟩)
  · exact Or.inr (Or.inr (Or.inl ⟨rfl, hnewline⟩))
  · exact Or.inr (Or.inr (Or.inr ⟨rfl, htab⟩))
  · exact Or.inl rfl

/-- What is written for a character is a unit that stands for it. -/
theorem denoted_escapeIn {quote c : Char} (hquote : quote ∈ stringQuotes) (hc : c ≠ '\\') :
    EscapeUnit (escapeIn quote c) ∧ denoted (escapeIn quote c) = [c] := by
  rcases escapeIn_cases quote c with h | ⟨h, rfl⟩ | ⟨h, rfl⟩ | ⟨h, rfl⟩
  · rw [h]
    exact ⟨⟨c, hc, Or.inl rfl⟩, by simp [denoted, resolve]⟩
  · rw [h]
    refine ⟨⟨c, hc, Or.inr rfl⟩, ?_⟩
    simp only [stringQuotes, List.mem_cons, List.not_mem_nil, or_false] at hquote
    rcases hquote with rfl | rfl <;> decide
  · rw [h]
    exact ⟨⟨'n', by decide, Or.inr rfl⟩, by decide⟩
  · rw [h]
    exact ⟨⟨'t', by decide, Or.inr rfl⟩, by decide⟩

/-- The replacements of escapes undo the writing. -/
theorem unescape_flatMap_escapeIn {quote : Char} (hquote : quote ∈ stringQuotes)
    {text : List Char} (h : '\\' ∉ text) : unescape (text.flatMap (escapeIn quote)) = text :=
  unescape_flatMap fun _ hc ↦ denoted_escapeIn hquote (ne_of_mem_of_not_mem hc h)

/-- Between double quotes only a single quote is written with one at an end. -/
theorem eq_singleQuote_of_escapeIn {c : Char}
    (h : (escapeIn '"' c).head? = some '\'' ∨ (escapeIn '"' c).getLast? = some '\'') :
    c = '\'' := by
  rcases escapeIn_cases '"' c with hc | ⟨hc, rfl⟩ | ⟨hc, rfl⟩ | ⟨hc, rfl⟩
  · rw [hc] at h
    simpa using h
  · exact absurd h (by decide)
  · exact absurd h (by decide)
  · exact absurd h (by decide)

theorem escapeIn_ne_nil (quote c : Char) : escapeIn quote c ≠ [] := by
  rcases escapeIn_cases quote c with h | ⟨h, -⟩ | ⟨h, -⟩ | ⟨h, -⟩ <;> rw [h] <;>
    exact List.cons_ne_nil _ _

/-! ### Reading -/

/-- A quoted text is read as what `unquoted` makes of it. -/
theorem readValue?_quotedIn_eq_unquoted {quote : Char} (hquote : quote ∈ stringQuotes)
    (text : List Char) :
    readValue? (quotedIn quote text) = some (.str (unquoted (quotedIn quote text))) := by
  refine readValue?_of_done ?_
  simp only [stringQuotes, List.mem_cons, List.not_mem_nil, or_false] at hquote
  rcases hquote with rfl | rfl
  · rw [quotedIn, (trimmed_enclosed rfl _ rfl).trim_eq]
    rfl
  · rw [quotedIn, (trimmed_enclosed rfl _ rfl).trim_eq]
    rfl

theorem unquoted_singleQuoted {text : List Char} (h : '\\' ∉ text) :
    unquoted (quotedIn '\'' text) = String.ofList text := by
  have hdouble : stripEnds '"' '"' (quotedIn '\'' text) = quotedIn '\'' text :=
    stripEnds_eq_self fun hends ↦ absurd (Option.some.inj hends.2.1) (by decide)
  rw [unquoted, hdouble, quotedIn, stripEnds_enclosed, unescape_flatMap_escapeIn (by decide) h]

/-- A text in double quotes also loses the single quotes at its ends. -/
theorem unquoted_doubleQuoted {text : List Char} (h : '\\' ∉ text) :
    unquoted (quotedIn '"' text) = String.ofList (stripEnds '\'' '\'' text) := by
  have hsingle : stripEnds '\'' '\'' (text.flatMap (escapeIn '"')) =
      (stripEnds '\'' '\'' text).flatMap (escapeIn '"') :=
    stripEnds_flatMap (by decide) fun c _ ↦ ⟨escapeIn_ne_nil '"' c, eq_singleQuote_of_escapeIn⟩
  have hplain : '\\' ∉ stripEnds '\'' '\'' text := fun hmem ↦ h (mem_of_mem_stripEnds hmem)
  rw [unquoted, quotedIn, stripEnds_enclosed, hsingle, unescape_flatMap_escapeIn (by decide) hplain]

/-- A literal is read as its contents, less single quotes at both of their ends if it is double
quoted; so it denotes its contents unless it is that and they have these. -/
theorem readValue?_quotedIn {quote : Char} (hquote : quote ∈ stringQuotes) {text : List Char}
    (h : '\\' ∉ text) :
    readValue? (quotedIn quote text) =
        some (.str (String.ofList (if quote = '"' then stripEnds '\'' '\'' text else text))) ∧
      (readValue? (quotedIn quote text) = some (.str (String.ofList text)) ↔
        ¬ (quote = '"' ∧ 2 ≤ text.length ∧ text.head? = some '\'' ∧
          text.getLast? = some '\'')) := by
  have hvalue : readValue? (quotedIn quote text) =
      some (.str (String.ofList (if quote = '"' then stripEnds '\'' '\'' text else text))) := by
    rw [readValue?_quotedIn_eq_unquoted hquote]
    simp only [stringQuotes, List.mem_cons, List.not_mem_nil, or_false] at hquote
    rcases hquote with rfl | rfl
    · rw [unquoted_doubleQuoted h, if_pos rfl]
    · rw [unquoted_singleQuoted h, if_neg (by decide)]
  refine ⟨hvalue, ?_⟩
  rw [hvalue, Option.some.injEq, Value.str.injEq, String.ofList_inj]
  by_cases hdouble : quote = '"'
  · rw [if_pos hdouble, stripEnds_eq_self_iff]
    simp [hdouble]
  · simp [hdouble]

/-- Double quotes at the ends of a single quoted literal's contents stay, as does a single quote at
one end; escapes, the other quote and a character of two bytes within. -/
theorem readValue?_quotedIn_other_quotes :
    '\\' ∉ "\"a'\n\té\"".toList ∧
      quotedIn '\'' "\"a'\n\té\"".toList = "'\"a\\'\\n\\té\"'".toList ∧
      readValue? (quotedIn '\'' "\"a'\n\té\"".toList) = some (.str "\"a'\n\té\"") ∧
      readValue? (quotedIn '"' "'".toList) = some (.str "'") := by
  have hplain : '\\' ∉ "\"a'\n\té\"".toList := by
    decide
  have hsingle := (readValue?_quotedIn (show '\'' ∈ stringQuotes by decide) hplain).1
  have hdouble := (readValue?_quotedIn (show '"' ∈ stringQuotes by decide)
    (show '\\' ∉ "'".toList by decide)).1
  exact ⟨hplain, by decide, hsingle, hdouble⟩

/-- The literal of a text between single quotes, in double quotes, is read without them. -/
theorem readValue?_quotedIn_singleQuotes :
    '\\' ∉ "'a'".toList ∧ readValue? (quotedIn '"' "'a'".toList) = some (.str "a") ∧
      readValue? (quotedIn '"' "'a'".toList) ≠ some (.str "'a'") := by
  have hvalue : readValue? (quotedIn '"' "'a'".toList) = some (.str "a") := by
    rw [readValue?_quotedIn_eq_unquoted (by decide), unquoted_doubleQuoted (by decide)]
    rfl
  refine ⟨by decide, hvalue, ?_⟩
  rw [hvalue, Ne, Option.some.injEq, Value.str.injEq]
  decide

end PluginRecovery.Script
