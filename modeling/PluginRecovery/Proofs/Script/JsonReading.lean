import Mathlib
import PluginRecovery.Proofs.Dictionary
import PluginRecovery.Proofs.Script.JsonTexts
import PluginRecovery.Proofs.Script.ValueReading

/-!
Reading undoes rendering as JSON. The reader of literal values knows less than JSON has: the escapes
of newlines, tabs and quotes, and it takes a colon in a name for the end of the name. For the values
that stay within this (`Value.Readable`), to any depth, `readValue?_compact` says that the compact
JSON text of a value is read as that value.
-/

set_option autoImplicit false
set_option relaxedAutoImplicit false

namespace PluginRecovery.Script

open PluginRecovery.Text

/-! ### Readable values -/

/-- A character that JSON writes as it is, or with an escape that the reader knows. -/
def ReadableChar (c : Char) : Prop :=
  c ≠ '\\' ∧ (c.toNat < 0x20 → c = '\n' ∨ c = '\t')

/-- A text whose JSON literal the reader takes for that text. Single quotes at both of its ends
would be dropped. -/
def ReadableText (text : List Char) : Prop :=
  (∀ c ∈ text, ReadableChar c) ∧
    ¬ (2 ≤ text.length ∧ text.head? = some '\'' ∧ text.getLast? = some '\'')

/-- A name whose JSON literal the reader takes for that name. -/
def ReadableName (name : List Char) : Prop :=
  blank name = false ∧ ∀ c ∈ name, c ≠ ':' ∧ c ≠ '"' ∧ c ≠ '\\' ∧ 0x20 ≤ c.toNat

/-- A value, to any depth, whose JSON text the reader takes for that value. The names of an object
are in ascending order, as they are in any object. -/
inductive Value.Readable : Value → Prop
  | null : Readable .null
  | bool (b : Bool) : Readable (.bool b)
  | int {n : ℤ} (hlow : -2 ^ 63 ≤ n) (hhigh : n < 2 ^ 63) : Readable (.int n)
  | str {s : String} (h : ReadableText s.toList) : Readable (.str s)
  | array {items : List Value} (h : ∀ v ∈ items, Readable v) : Readable (.array items)
  | object {entries : List (String × Value)} (horder : Dictionary.Ascending entries)
      (hnames : ∀ entry ∈ entries, ReadableName entry.1.toList)
      (hvalues : ∀ entry ∈ entries, Readable entry.2) : Readable (.object entries)

def Value.jsonText (v : Value) : List Char :=
  v.toJson.chars

def entryText (entry : String × Value) : List Char :=
  Json.quoted entry.1.toList ++ ':' :: entry.2.jsonText

theorem itemsToJson_eq_map (items : List Value) :
    Value.itemsToJson items = items.map Value.toJson := by
  induction items with
  | nil => rfl
  | cons v items ih => rw [Value.itemsToJson, ih, List.map_cons]

theorem entriesToJson_eq_map (entries : List (String × Value)) :
    Value.entriesToJson entries = entries.map fun entry ↦ (some entry.1, entry.2.toJson) := by
  induction entries with
  | nil => rfl
  | cons entry entries ih => rw [Value.entriesToJson, ih, List.map_cons]

/-- An array is written as its items with commas between them, in brackets. -/
theorem jsonText_array (items : List Value) :
    (Value.array items).jsonText =
      '[' :: [','].intercalate (items.map Value.jsonText) ++ [']'] := by
  rw [Value.jsonText, Value.toJson, Json.chars, Json.itemChars_eq_intercalate,
    itemsToJson_eq_map, List.map_map]
  rfl

/-- An object is written as its entries with commas between them, in braces. -/
theorem jsonText_object (entries : List (String × Value)) :
    (Value.object entries).jsonText =
      '{' :: [','].intercalate (entries.map entryText) ++ ['}'] := by
  rw [Value.jsonText, Value.toJson, Json.chars, Json.memberChars_eq_intercalate,
    entriesToJson_eq_map, List.map_map]
  rfl

/-! ### Literals -/

/-- Only quotes, backslashes and control characters are escaped. -/
theorem escape_of_plain {c : Char} (hquote : c ≠ '"') (hbackslash : c ≠ '\\')
    (hcontrol : 0x20 ≤ c.toNat) : Json.escape c = [c] := by
  unfold Json.escape
  split
  · exact absurd rfl hquote
  · exact absurd rfl hbackslash
  · exact absurd hcontrol (by decide)
  · exact absurd hcontrol (by decide)
  · exact absurd hcontrol (by decide)
  · rw [if_neg (by omega), if_neg (by omega), if_neg (by omega)]

/-- A readable character is written as it is, or is one of the three whose escapes are undone. -/
theorem ReadableChar.escape_cases {c : Char} (h : ReadableChar c) :
    Json.escape c = [c] ∨ c = '"' ∨ c = '\n' ∨ c = '\t' := by
  obtain ⟨hbackslash, hcontrol⟩ := h
  by_cases hlow : c.toNat < 0x20
  · exact Or.inr (Or.inr (hcontrol hlow))
  · by_cases hquote : c = '"'
    · exact Or.inr (Or.inl hquote)
    · exact Or.inl (escape_of_plain hquote hbackslash (Nat.not_lt.mp hlow))

/-- The escape of a readable character is a unit that stands for the character. -/
theorem ReadableChar.denoted_escape {c : Char} (h : ReadableChar c) :
    EscapeUnit (Json.escape c) ∧ denoted (Json.escape c) = [c] := by
  rcases h.escape_cases with hescape | rfl | rfl | rfl
  · rw [hescape]
    exact ⟨⟨c, h.1, Or.inl rfl⟩, by simp [denoted, resolve]⟩
  · exact ⟨⟨'"', by decide, Or.inr rfl⟩, by decide⟩
  · exact ⟨⟨'n', by decide, Or.inr rfl⟩, by decide⟩
  · exact ⟨⟨'t', by decide, Or.inr rfl⟩, by decide⟩

/-- Only a single quote is written with a single quote at either end. -/
theorem ReadableChar.eq_singleQuote {c : Char} (h : ReadableChar c)
    (hends : (Json.escape c).head? = some '\'' ∨ (Json.escape c).getLast? = some '\'') :
    c = '\'' := by
  rcases h.escape_cases with hescape | rfl | rfl | rfl
  · rw [hescape] at hends
    simpa using hends
  · exact absurd hends (by decide)
  · exact absurd hends (by decide)
  · exact absurd hends (by decide)

/-- The reader replaces the escapes of JSON in a literal, and nothing else. -/
theorem unescape_flatMap_escape {text : List Char} (h : ∀ c ∈ text, ReadableChar c) :
    unescape (text.flatMap Json.escape) = text :=
  unescape_flatMap fun c hc ↦ (h c hc).denoted_escape

/-- The literal of a readable text has no single quotes to drop. -/
theorem stripEnds_flatMap_escape {text : List Char} (h : ReadableText text) :
    stripEnds '\'' '\'' (text.flatMap Json.escape) = text.flatMap Json.escape := by
  obtain ⟨hchars, hends⟩ := h
  have hquotes : ∀ c ∈ text, Json.escape c ≠ [] ∧
      ((Json.escape c).head? = some '\'' ∨ (Json.escape c).getLast? = some '\'' → c = '\'') :=
    fun c hc ↦ ⟨Json.escape_ne_nil c, (hchars c hc).eq_singleQuote⟩
  rw [stripEnds_flatMap (by decide) hquotes, stripEnds_eq_self hends]

/-- A readable text is had back from its quoted form. -/
theorem unquoted_quoted {s : String} (h : ReadableText s.toList) :
    unquoted (Json.quoted s.toList) = s := by
  rw [unquoted, Json.quoted, stripEnds_enclosed, stripEnds_flatMap_escape h,
    unescape_flatMap_escape h.1, String.ofList_toList]

/-- A readable name is written without escapes. -/
theorem quoted_name {name : List Char} (h : ReadableName name) :
    Json.quoted name = '"' :: name ++ ['"'] := by
  have hname : name.flatMap Json.escape = name.flatMap fun c ↦ [c] :=
    List.flatMap_congr fun c hc ↦ by
      obtain ⟨-, hquote, hbackslash, hcontrol⟩ := h.2 c hc
      exact escape_of_plain hquote hbackslash hcontrol
  rw [Json.quoted, hname, List.flatMap_singleton']

/-! ### The texts of readable values -/

theorem isBlank_of_mem_toString {n : ℤ} {c : Char} (h : c ∈ (toString n).toList) :
    isBlank c = false := by
  rcases Decimal.mem_toString h with hdigit | rfl
  · rw [Char.isDigit_iff_toNat] at hdigit
    have hlow : 48 ≤ c.toNat := hdigit.1
    have hhigh : c.toNat ≤ 57 := hdigit.2
    simp only [isBlank, Bool.or_eq_false_iff, Bool.and_eq_false_iff, decide_eq_false_iff_not,
      beq_eq_false_iff_ne]
    omega
  · decide

/-- The text of a readable value has no white space at its ends. -/
theorem Value.Readable.trimmed {v : Value} (h : v.Readable) : Trimmed v.jsonText := by
  cases h with
  | null => exact @trimmed_enclosed 'n' 'l' rfl ['u', 'l'] rfl
  | bool b =>
    cases b with
    | true => exact @trimmed_enclosed 't' 'e' rfl ['r', 'u'] rfl
    | false => exact @trimmed_enclosed 'f' 'e' rfl ['a', 'l', 's'] rfl
  | int hlow hhigh => exact trimmed_of_forall fun c hc ↦ isBlank_of_mem_toString hc
  | str h => exact trimmed_enclosed rfl _ rfl
  | array h =>
    rw [jsonText_array]
    exact trimmed_enclosed rfl _ rfl
  | object horder hnames hvalues =>
    rw [jsonText_object]
    exact trimmed_enclosed rfl _ rfl

theorem Value.Readable.jsonText_ne_nil {v : Value} (h : v.Readable) : v.jsonText ≠ [] := by
  cases h with
  | null => exact List.cons_ne_nil _ _
  | bool b => cases b <;> exact List.cons_ne_nil _ _
  | int hlow hhigh => exact Decimal.toList_toString_ne_nil _
  | str h => exact List.cons_ne_nil _ _
  | array h => exact List.cons_ne_nil _ _
  | object horder hnames hvalues => exact List.cons_ne_nil _ _

/-- The text of a readable value is balanced, to any depth. -/
theorem Value.Readable.balanced {v : Value} (h : v.Readable) : Balanced v.jsonText := by
  induction h with
  | null =>
    refine balanced_of_forall ?_
    simp [Value.jsonText, Value.toJson, Json.chars, nestingMarks, quotes]
  | bool b =>
    refine balanced_of_forall ?_
    cases b <;> simp [Value.jsonText, Value.toJson, Json.chars, nestingMarks, quotes]
  | int hlow hhigh => exact balanced_toString _
  | str h => exact balanced_quoted _
  | @array items h ih =>
    rw [jsonText_array]
    refine balanced_array fun text htext ↦ ?_
    obtain ⟨v, hv, rfl⟩ := List.mem_map.mp htext
    exact ih v hv
  | @object entries horder hnames hvalues ih =>
    rw [jsonText_object]
    refine balanced_object fun text htext ↦ ?_
    obtain ⟨entry, hentry, rfl⟩ := List.mem_map.mp htext
    exact balanced_member _ (ih entry hentry)

/-! ### Reading -/

/-- An entry is written with nothing blank at its ends. -/
theorem trimmed_entryText {entry : String × Value} (hvalue : entry.2.Readable) :
    Trimmed (entryText entry) := by
  have hname : Trimmed (Json.quoted entry.1.toList) := trimmed_enclosed rfl _ rfl
  have hcolon : Trimmed [':'] := trimmed_of_forall (by simp; decide)
  have hrest := hcolon.append hvalue.trimmed (by simp) hvalue.jsonText_ne_nil
  exact hname.append hrest (List.cons_ne_nil _ _) (List.cons_ne_nil _ _)

/-- The text of an array is read as an array of the texts of its items. -/
theorem shape_jsonText_array {items : List Value} (h : ∀ v ∈ items, v.Readable) :
    shape (Value.array items).jsonText = .array (items.map Value.jsonText) := by
  have hsplit : splitAtCommas ([','].intercalate (items.map Value.jsonText)) =
      items.map Value.jsonText := by
    refine splitAtCommas_intercalate_eq_self (List.forall_mem_map.mpr fun v hv ↦ ?_)
    exact ⟨(h v hv).jsonText_ne_nil, (h v hv).balanced.closed, (h v hv).trimmed⟩
  rw [jsonText_array, List.cons_append, shape_bracket, ← List.cons_append, stripEnds_enclosed,
    hsplit]

/-- The reader finds the names and the texts of the values in the text of an object. -/
theorem entryTexts_jsonText {entries : List (String × Value)}
    (hnames : ∀ entry ∈ entries, ReadableName entry.1.toList)
    (hvalues : ∀ entry ∈ entries, entry.2.Readable) :
    entryTexts (Value.object entries).jsonText =
      entries.map fun entry ↦ (entry.1, entry.2.jsonText) := by
  have hsplit : splitAtCommas ([','].intercalate (entries.map entryText)) =
      entries.map entryText := by
    refine splitAtCommas_intercalate_eq_self (List.forall_mem_map.mpr fun entry hentry ↦ ?_)
    have hvalue := hvalues entry hentry
    exact ⟨List.cons_ne_nil _ _, (balanced_member _ hvalue.balanced).closed,
      trimmed_entryText hvalue⟩
  have htrim : trim (Value.object entries).jsonText = (Value.object entries).jsonText := by
    rw [jsonText_object]
    exact (trimmed_enclosed rfl _ rfl).trim_eq
  rw [entryTexts, htrim, jsonText_object, stripEnds_enclosed, hsplit, List.filterMap_map,
    ← List.filterMap_eq_map]
  refine List.filterMap_congr fun entry hentry ↦ ?_
  have hname := hnames entry hentry
  have hcolon : ':' ∉ Json.quoted entry.1.toList := by
    rw [quoted_name hname]
    simpa using fun h ↦ (hname.2 ':' h).1 rfl
  simp only [Function.comp_apply, entryText, splitAtColon?_append hcolon]
  rw [quoted_name hname, keyName_doubleQuoted, hname.1, if_neg Bool.false_ne_true,
    String.ofList_toList]

/-- A value is had back from its text if the text has the shape of that value. -/
theorem Value.Readable.readValue?_of_shape {v : Value} (h : v.Readable)
    (hshape : shape v.jsonText = .done v) : readValue? v.jsonText = some v := by
  refine readValue?_of_done ?_
  rw [h.trimmed.trim_eq, hshape]

/-- A readable value is what is read from its JSON text. -/
theorem readValue?_jsonText {v : Value} (h : v.Readable) : readValue? v.jsonText = some v := by
  induction h with
  | null => exact Value.Readable.null.readValue?_of_shape rfl
  | bool b => cases b <;> exact (Value.Readable.bool _).readValue?_of_shape rfl
  | int hlow hhigh =>
    exact (Value.Readable.int hlow hhigh).readValue?_of_shape (shape_toString hlow hhigh)
  | str h =>
    refine (Value.Readable.str h).readValue?_of_shape ((shape_doubleQuoted _).trans ?_)
    exact congrArg (Shape.done ∘ Value.str) (unquoted_quoted h)
  | @array items h ih =>
    have hshape : shape (trim (Value.array items).jsonText) =
        .array (items.map Value.jsonText) := by
      rw [(Value.Readable.array h).trimmed.trim_eq, shape_jsonText_array h]
    refine readValue?_of_array hshape ?_
    rw [List.forall₂_map_left_iff, List.forall₂_same]
    intro v hv
    refine ⟨?_, ih v hv⟩
    have hle := length_le_length_intercalate (List.mem_map_of_mem (f := Value.jsonText) hv)
    rw [jsonText_array, List.length_append, List.length_cons]
    omega
  | @object entries horder hnames hvalues ih =>
    have htrim := (Value.Readable.object horder hnames hvalues).trimmed.trim_eq
    have hshape : shape (trim (Value.object entries).jsonText) = .object := by
      rw [htrim, jsonText_object]
      exact shape_brace _
    have hread := @readValue?_of_object (Value.object entries).jsonText entries hshape
    rw [Dictionary.ofEntries_eq_self horder, htrim, entryTexts_jsonText hnames hvalues,
      List.forall₂_map_left_iff, List.forall₂_same] at hread
    refine hread fun entry hentry ↦ ⟨rfl, ?_, ?_⟩
    · have hle := length_le_length_intercalate (List.mem_map_of_mem (f := entryText) hentry)
      rw [jsonText_object, List.length_append, List.length_cons]
      rw [entryText, List.length_append, List.length_cons] at hle
      simp only
      omega
    · exact ih entry hentry

/-- The compact JSON text of a readable value is read, and as that value. -/
theorem readValue?_compact (v : Value) (h : v.Readable) :
    readValue? v.toJson.compact.toList = some v := by
  rw [Json.compact, String.toList_ofList]
  exact readValue?_jsonText h

/-- An object with brackets, commas, quotes and an arrow in its names and strings. -/
theorem readValue?_compact_nested :
    let inner : Value := .object [("'q'", .str "\x60\t")]
    let items : List Value :=
      [.int (-9223372036854775808), .str "x => \"\x7d', \n[", .null, .bool true, inner]
    let v : Value := .object [(" \x7b", .array []), ("a,b", .array items)]
    v.Readable ∧ readValue? v.toJson.compact.toList = some v := by
  intro inner items v
  have hinner : inner.Readable := by
    refine .object (List.pairwise_singleton _ _) ?_ ?_
    · simp [ReadableName, blank, isBlank]
    · rw [List.forall_mem_singleton]
      exact .str (by simp [ReadableText, ReadableChar])
  have hitems : ∀ item ∈ items, item.Readable := by
    simp only [items, List.forall_mem_cons]
    exact ⟨.int (by decide) (by decide), .str (by simp [ReadableText, ReadableChar]), .null,
      .bool true, hinner, List.forall_mem_nil _⟩
  have hv : v.Readable := by
    have horder : " \x7b" < "a,b" := by
      rw [String.lt_iff_toList_lt]
      decide
    refine .object (by simpa [Dictionary.Ascending] using horder) ?_ ?_
    · simp [ReadableName, blank, isBlank]
    · simp only [List.forall_mem_cons]
      exact ⟨.array (List.forall_mem_nil _), .array hitems, List.forall_mem_nil _⟩
  exact ⟨hv, readValue?_compact v hv⟩

end PluginRecovery.Script
