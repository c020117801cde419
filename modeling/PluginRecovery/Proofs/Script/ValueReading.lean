import Mathlib
import PluginRecovery.Proofs.Decimal.Integer
import PluginRecovery.Proofs.Script.Escapes
import PluginRecovery.Proofs.Text.Trimming

/-!
How the value of a text is read. The first characters of a trimmed text tell its shape; what the
reading of an array or an object gives follows from the readings of its parts, which are shorter
(`readValue?_of_array`, `readValue?_of_object`).
-/

set_option autoImplicit false
set_option relaxedAutoImplicit false

namespace PluginRecovery.Script

open PluginRecovery.Text

/-! ### Shapes -/

theorem contains_iff_isInfix {part text : List Char} :
    contains part text = true ↔ part <:+: text := by
  induction text with
  | nil => rw [contains, List.isEmpty_iff, List.infix_nil]
  | cons d text ih =>
    rw [contains, Bool.or_eq_true, List.isPrefixOf_iff_prefix, ih, List.infix_cons_iff]

theorem mem_of_contains {part text : List Char} (h : contains part text = true) :
    ∀ c ∈ part, c ∈ text :=
  fun _ hc ↦ (contains_iff_isInfix.mp h).subset hc

/-- A text that begins with a double quote is a string, however it ends. -/
theorem shape_doubleQuoted (rest : List Char) :
    shape ('"' :: rest) = .done (.str (unquoted ('"' :: rest))) :=
  rfl

/-- A text that begins with a bracket is an array, however it ends. -/
theorem shape_bracket (rest : List Char) :
    shape ('[' :: rest) = .array (splitAtCommas (stripEnds '[' ']' ('[' :: rest))) := by
  have hkeyword : keyword? ('[' :: rest) = none := by simp [keyword?]
  have hnumber : number? ('[' :: rest) = none := by simp [number?, looksNumeric]
  simp only [shape, hkeyword, hnumber]
  rfl

/-- A text that begins with a brace is an object, however it ends. -/
theorem shape_brace (rest : List Char) : shape ('{' :: rest) = .object := by
  have hkeyword : keyword? ('{' :: rest) = none := by simp [keyword?]
  have hnumber : number? ('{' :: rest) = none := by simp [number?, looksNumeric]
  simp only [shape, hkeyword, hnumber]
  rfl

/-- What is read as a number is nothing else. -/
theorem shape_of_number {text : List Char} {value : Value} (h : number? text = some value) :
    shape text = .done value := by
  have hnumeric : looksNumeric text = true := by
    by_contra hnot
    rw [number?, if_neg hnot] at h
    exact absurd h (Option.some_ne_none value).symm
  have hkeyword : keyword? text = none := by
    unfold keyword?
    split_ifs with htrue hfalse hnull
    · subst text
      exact absurd hnumeric (by decide)
    · subst text
      exact absurd hnumeric (by decide)
    · rcases hnull with rfl | rfl <;> exact absurd hnumeric (by decide)
    · rfl
  unfold shape
  split
  · exact absurd hnumeric (by simp [looksNumeric])
  · exact absurd hnumeric (by simp [looksNumeric])
  · exact absurd hnumeric (by simp [looksNumeric])
  · simp only [hkeyword, h]

theorem looksNumeric_toString (n : ℤ) : looksNumeric (toString n).toList = true := by
  have hlower : (toString n).toList.map Char.toLower = (toString n).toList := by
    conv_rhs => rw [← List.map_id (toString n).toList]
    refine List.map_congr_left fun c hc ↦ Char.toLower_eq_of_not_isUpper ?_
    rcases Decimal.mem_toString hc with hdigit | rfl
    · intro hupper
      simp only [Char.isDigit, Char.isUpper, Bool.and_eq_true, decide_eq_true_eq] at hdigit hupper
      exact absurd (UInt32.le_trans hupper.1 hdigit.2) (by decide)
    · decide
  have hword {word : List Char} (hmem : 'n' ∈ word) :
      contains word (toString n).toList = false := by
    rw [Bool.eq_false_iff]
    intro hcontains
    rcases Decimal.mem_toString (mem_of_contains hcontains 'n' hmem) with hdigit | hminus
    · exact absurd hdigit (by decide)
    · exact absurd hminus (by decide)
  have hinf := @hword "inf".toList (by decide)
  have hnan := @hword "nan".toList (by decide)
  obtain ⟨first, rest, htext⟩ :=
    List.exists_cons_of_ne_nil (Decimal.toList_toString_ne_nil n)
  have hfirst : first.isDigit = true ∨ first = '-' :=
    Decimal.mem_toString (htext ▸ List.mem_cons_self)
  rw [htext] at hlower hinf hnan ⊢
  simp only [looksNumeric, hlower, hinf, hnan]
  rcases hfirst with hdigit | rfl
  · rw [hdigit]
    rfl
  · rfl

/-- A numeral is read as its number. -/
theorem shape_toString {n : ℤ} (hlow : -2 ^ 63 ≤ n) (hhigh : n < 2 ^ 63) :
    shape (toString n).toList = .done (.int n) := by
  refine shape_of_number ?_
  rw [number?, if_pos (looksNumeric_toString n), Decimal.int64?_toString hlow hhigh]

/-! ### Entries -/

/-- An entry is split at its first colon. -/
theorem splitAtColon?_append {key : List Char} (h : ':' ∉ key) (value : List Char) :
    splitAtColon? (key ++ ':' :: value) = some (key, value) := by
  have hkey : ∀ c ∈ key, decide (c ≠ ':') = true := by
    intro c hc
    rw [decide_eq_true_iff]
    rintro rfl
    exact h hc
  rw [splitAtColon?, List.dropWhile_append_of_pos hkey, List.takeWhile_append_of_pos hkey]
  simp

/-- A name in double quotes is the name. -/
theorem keyName_doubleQuoted (name : List Char) : keyName ('"' :: name ++ ['"']) = name := by
  have htrim : trim ('"' :: name ++ ['"']) = '"' :: name ++ ['"'] :=
    (trimmed_enclosed rfl name rfl).trim_eq
  rw [keyName, htrim, between?_enclosed]

theorem entryTexts_trim (text : List Char) : entryTexts (trim text) = entryTexts text := by
  rw [entryTexts, entryTexts, (trimmed_trim text).trim_eq]

/-! ### Readings -/

theorem mapM_eq_some_of_forall₂ {α β : Type} {f : α → Option β} {items : List α} {results : List β}
    (h : List.Forall₂ (fun item result ↦ f item = some result) items results) :
    items.mapM f = some results := by
  induction h with
  | nil => rfl
  | cons hitem _ ih => rw [List.mapM_cons, hitem, ih]; rfl

theorem exists_of_mem_mapM {α β : Type} {f : α → Option β} {items : List α} {results : List β}
    (h : items.mapM f = some results) :
    ∀ result ∈ results, ∃ item ∈ items, f item = some result := by
  induction items generalizing results with
  | nil =>
    obtain rfl := Option.some.inj h
    exact List.forall_mem_nil _
  | cons item items ih =>
    rw [List.mapM_cons] at h
    obtain ⟨first, hfirst, h⟩ := Option.bind_eq_some_iff.mp h
    obtain ⟨rest, hrest, h⟩ := Option.bind_eq_some_iff.mp h
    obtain rfl := Option.some.inj h
    refine List.forall_mem_cons.mpr ⟨⟨item, List.mem_cons_self, hfirst⟩, fun result hresult ↦ ?_⟩
    obtain ⟨other, hother, heq⟩ := ih hrest result hresult
    exact ⟨other, List.mem_cons_of_mem _ hother, heq⟩

/-- A text that is neither an array nor an object is read at once. -/
theorem readValue?_of_done {text : List Char} {value : Value}
    (h : shape (trim text) = .done value) : readValue? text = some value := by
  rw [readValue?, h]

/-- The reading of an array whose items are read. -/
theorem readValue?_of_array {text : List Char} {items : List (List Char)} {values : List Value}
    (h : shape (trim text) = .array items)
    (hitems : List.Forall₂ (fun item value ↦ item.length < text.length ∧
      readValue? item = some value) items values) :
    readValue? text = some (.array values) := by
  have hmap : (items.mapM fun (item : List Char) ↦
      if item.length < text.length then readValue? item else none) = some values := by
    refine mapM_eq_some_of_forall₂ (hitems.imp fun item value hitem ↦ ?_)
    rw [if_pos hitem.1, hitem.2]
  rw [readValue?, h]
  simp only [hmap]
  rfl

/-- The reading of an object whose values are read. -/
theorem readValue?_of_object {text : List Char} {entries : List (String × Value)}
    (h : shape (trim text) = .object)
    (hentries : List.Forall₂ (fun (piece : String × List Char) entry ↦ piece.1 = entry.1 ∧
      piece.2.length < text.length ∧ readValue? piece.2 = some entry.2)
      (entryTexts (trim text)) entries) :
    readValue? text = some (.object (Dictionary.ofEntries entries)) := by
  have hmap : ((entryTexts (trim text)).mapM fun (piece : String × List Char) ↦
      if piece.2.length < text.length then (readValue? piece.2).map fun value ↦ (piece.1, value)
      else none) = some entries := by
    refine mapM_eq_some_of_forall₂ (hentries.imp fun piece entry hentry ↦ ?_)
    obtain ⟨hname, hlength, hvalue⟩ := hentry
    rw [if_pos hlength, hvalue, hname]
    rfl
  rw [readValue?, h]
  simp only [hmap]
  rfl

end PluginRecovery.Script
