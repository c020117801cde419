import Mathlib
import PluginRecovery.Proofs.Dictionary
import PluginRecovery.Proofs.Script.JsonTexts
import PluginRecovery.Proofs.Script.ReadingEnds

/-!
Arrays and objects as they are laid out in a script, with any white space around their parts. What
stands between the brackets is a list of texts with commas between them, with or without a comma
behind the last (`listed`). The splitter drops what is empty between two commas but not what is
blank, which is trimmed only then (`splitAtCommas_listed`). An object does not mind, as the rest has
no colon: `readProperties_objectText` says that it is read as its members, of one name the last. An
array does: by `readValue?_arrayText` white space alone, between its brackets or behind its last
comma, is read as one more item, the empty text.
-/

set_option autoImplicit false
set_option relaxedAutoImplicit false

namespace PluginRecovery.Script

open PluginRecovery.Text

/-! ### Lists -/

abbrev Blanks := { text : List Char // blank text = true }

/-- What stands between brackets: texts with commas between them, and behind them gaps of white
space, each after a comma unless nothing comes before it. So there is no gap where no comma stands
behind the last text, one where a comma does, and one in brackets with white space only. -/
def listed (texts : List (List Char)) (gaps : List Blanks) : List Char :=
  [','].intercalate (texts ++ gaps.map Subtype.val)

/-- The number of gaps with something in them. -/
def wideGaps (gaps : List Blanks) : ℕ :=
  gaps.countP fun gap ↦ !gap.val.isEmpty

theorem balanced_of_blank {text : List Char} (h : blank text = true) : Balanced text := by
  refine balanced_of_forall fun c hc ↦ ?_
  obtain ⟨hcomma, hbackslash, hmark⟩ := not_mark_of_isBlank (List.all_eq_true.mp h c hc)
  exact ⟨hmark, hcomma, hbackslash⟩

/-- The splitter gives the texts and an empty text for each gap that is not empty. -/
theorem splitAtCommas_listed {texts : List (List Char)} (gaps : List Blanks)
    (h : ∀ text ∈ texts, Closed text ∧ blank text = false) :
    splitAtCommas (listed texts gaps) = texts.map trim ++ List.replicate (wideGaps gaps) [] := by
  have hclosed : ∀ text ∈ texts ++ gaps.map Subtype.val, Closed text := by
    intro text htext
    rcases List.mem_append.mp htext with htext | htext
    · exact (h text htext).1
    · obtain ⟨gap, -, rfl⟩ := List.mem_map.mp htext
      exact (balanced_of_blank gap.property).closed
  have htexts : texts.filter (!·.isEmpty) = texts := by
    rw [List.filter_eq_self]
    intro text htext
    cases text with
    | nil => exact absurd (h [] htext).2 (by decide)
    | cons c rest => rfl
  have hgaps : ((gaps.map Subtype.val).filter (!·.isEmpty)).map trim =
      List.replicate (wideGaps gaps) [] := by
    have htrim : trim ∘ Subtype.val = fun _ : Blanks ↦ ([] : List Char) :=
      funext fun gap ↦ trim_of_blank gap.property
    rw [List.filter_map, List.map_map, htrim, List.map_const', wideGaps, List.countP_eq_length_filter]
    rfl
  rw [listed, splitAtCommas_intercalate_of_closed hclosed, List.filter_append, List.map_append,
    htexts, hgaps]

/-- A text that may stand in a list, as it has no comma at the top and ends there, and its value. -/
structure ListedValue where
  text : List Char
  value : Value
  noTopComma : NoTopComma text
  atTop : AtTop text
  read : readValue? text = some value

/-- A value that is listed has no comma at the top and ends there. -/
theorem ListedValue.closed (listed : ListedValue) : Closed listed.text :=
  ⟨(parts_eq_singleton_iff _).mpr listed.noTopComma, (atTop_iff _).mp listed.atTop⟩

/-! ### Arrays -/

/-- An item of an array, with the white space around it. -/
structure ArrayItem extends ListedValue where
  before : Blanks
  after : Blanks
  notBlank : blank text = false

/-- The item as it is written. -/
def ArrayItem.source (item : ArrayItem) : List Char :=
  item.before ++ item.text ++ item.after

/-- An array as it is written. -/
def arrayText (items : List ArrayItem) (gaps : List Blanks) : List Char :=
  '[' :: listed (items.map ArrayItem.source) gaps ++ [']']

theorem ArrayItem.closed_source (item : ArrayItem) : Closed item.source :=
  item.closed.padded item.before.property item.after.property

theorem ArrayItem.blank_source (item : ArrayItem) : blank item.source = false := by
  rw [source, blank, List.all_append, List.all_append]
  have hblank : item.text.all isBlank = false := item.notBlank
  simp [hblank]

/-- Without the white space around it an item is the text of its value. -/
theorem ArrayItem.trim_source (item : ArrayItem) : trim item.source = trim item.text :=
  trim_padded item.before.property item.after.property item.text

/-- An array is read item by item. -/
theorem readValue?_bracketed {inner : List Char} {values : List Value}
    (h : List.Forall₂ (fun item value ↦ readValue? item = some value) (splitAtCommas inner)
      values) : readValue? ('[' :: inner ++ [']']) = some (.array values) := by
  have htrim : trim ('[' :: inner ++ [']']) = '[' :: inner ++ [']'] :=
    (trimmed_enclosed rfl inner rfl).trim_eq
  have hshape : shape (trim ('[' :: inner ++ [']'])) = .array (splitAtCommas inner) := by
    rw [htrim, List.cons_append, shape_bracket, ← List.cons_append, stripEnds_enclosed]
  refine readValue?_of_array hshape ((List.forall₂_and_left _ _).mpr ⟨fun item hitem ↦ ?_, h⟩)
  have hle := length_le_of_mem_splitAtCommas hitem
  rw [List.length_append, List.length_cons]
  omega

/-- An array is read, in any layout, as the values of its items and an empty text for each gap that
is not empty; so as the values alone exactly when no white space stands between empty brackets or
behind a last comma. -/
theorem readValue?_arrayText (items : List ArrayItem) (gaps : List Blanks) :
    readValue? (arrayText items gaps) =
        some (.array (items.map (·.value) ++ List.replicate (wideGaps gaps) (.str ""))) ∧
      (readValue? (arrayText items gaps) = some (.array (items.map (·.value))) ↔
        ∀ gap ∈ gaps, gap.val = []) := by
  have hvalue : readValue? (arrayText items gaps) =
      some (.array (items.map (·.value) ++ List.replicate (wideGaps gaps) (.str ""))) := by
    refine readValue?_bracketed ?_
    have hsources : ∀ text ∈ items.map ArrayItem.source, Closed text ∧ blank text = false :=
      List.forall_mem_map.mpr fun item _ ↦ ⟨item.closed_source, item.blank_source⟩
    rw [splitAtCommas_listed gaps hsources, List.map_map]
    refine List.rel_append ?_ ?_
    · rw [List.forall₂_map_left_iff, List.forall₂_map_right_iff, List.forall₂_same]
      intro item _
      rw [Function.comp_apply, item.trim_source, readValue?_trim]
      exact item.read
    · have hempty : readValue? [] = some (.str "") := readValue?_of_done rfl
      induction wideGaps gaps with
      | zero => exact .nil
      | succ n ih => exact .cons hempty ih
  refine ⟨hvalue, ?_⟩
  rw [hvalue, Option.some.injEq, Value.array.injEq, List.append_right_eq_self,
    List.replicate_eq_nil_iff, wideGaps, List.countP_eq_zero]
  simp

/-- Line breaks around the items and a comma right before the bracket, with an array in the array
and a bracket, a comma and a quote in a literal. -/
theorem readValue?_arrayText_nested :
    readValue? "[\n1 ,[2,\x60],\"\x60]\n,]".toList =
      some (.array [.int 1, .array [.int 2, .str "],\""]]) := by
  let one : ArrayItem :=
    { text := "1".toList, value := .int 1, before := ⟨"\n".toList, rfl⟩, after := ⟨" ".toList, rfl⟩
      noTopComma := (parts_eq_singleton_iff _).mp (by decide), atTop := by decide
      read := @readValue?_of_readWithin 1 _ _ rfl, notBlank := by decide }
  let inner : ArrayItem :=
    { text := "[2,\x60],\"\x60]".toList, value := .array [.int 2, .str "],\""]
      before := ⟨[], rfl⟩, after := ⟨"\n".toList, rfl⟩
      noTopComma := (parts_eq_singleton_iff _).mp (by decide), atTop := by decide
      read := @readValue?_of_readWithin 2 _ _ rfl, notBlank := by decide }
  exact (readValue?_arrayText [one, inner] [⟨[], rfl⟩]).1

/-- A space between the brackets of an array without items is read as an item. -/
theorem readValue?_arrayText_space :
    arrayText [] [⟨" ".toList, rfl⟩] = "[ ]".toList ∧
      readValue? "[ ]".toList = some (.array [.str ""]) ∧
      readValue? "[ ]".toList ≠ some (.array []) := by
  have hvalue : readValue? "[ ]".toList = some (.array [.str ""]) :=
    @readValue?_of_readWithin 2 _ _ rfl
  refine ⟨rfl, hvalue, ?_⟩
  rw [hvalue]
  simp

/-! ### Objects -/

/-- The characters that no key may have. -/
def keyMarks : List Char :=
  nestingMarks ++ [':', ',', '\\']

/-- How a key is written: as it is, or between quotes. -/
inductive KeyForm where
  | bare
  | singleQuoted
  | doubleQuoted

structure Key where
  name : List Char
  form : KeyForm
  notBlank : blank name = false
  plain : ∀ c ∈ name, c ∉ keyMarks
  trimmed : form = .bare → Trimmed name

/-- The key as it is written. -/
def Key.source (key : Key) : List Char :=
  match key.form with
  | .bare => key.name
  | .singleQuoted => '\'' :: key.name ++ ['\'']
  | .doubleQuoted => '"' :: key.name ++ ['"']

/-- A member of an object, with the white space around its parts. -/
structure Member extends ListedValue where
  key : Key
  beforeKey : Blanks
  afterKey : Blanks
  beforeValue : Blanks
  afterValue : Blanks

/-- The member as it is written. -/
def Member.source (m : Member) : List Char :=
  m.beforeKey ++ m.key.source ++ m.afterKey ++ ':' :: (m.beforeValue ++ m.text ++ m.afterValue)

/-- The name and the value of the member. -/
def Member.entry (m : Member) : String × Value :=
  (String.ofList m.key.name, m.value)

/-- An object as it is written. -/
def objectText (before after : Blanks) (members : List Member) (gaps : List Blanks) : List Char :=
  before ++ ('{' :: listed (members.map Member.source) gaps ++ ['}']) ++ after

theorem Key.not_mem_name (key : Key) {c : Char} (hc : c ∈ keyMarks) : c ∉ key.name :=
  fun hmem ↦ key.plain c hmem hc

/-- A key is balanced in each way to write it. -/
theorem Key.balanced_source (key : Key) : Balanced key.source := by
  have hliteral {quote : Char} (hquote : quote ∈ quotes) :
      Balanced (quote :: key.name ++ [quote]) := by
    have hmark : quote ∈ keyMarks :=
      List.mem_append_left _ (List.mem_append_left _ hquote)
    refine balanced_literal hquote fun n h ↦ reads_inside hquote h fun c hc ↦ ⟨?_, ?_⟩
    · exact ne_of_mem_of_not_mem hc (key.not_mem_name hmark)
    · exact ne_of_mem_of_not_mem hc (key.not_mem_name (by decide))
  rw [source]
  split
  · refine balanced_of_forall fun c hc ↦ ?_
    have hmarks := key.plain c hc
    simp only [keyMarks, List.mem_append, not_or, List.mem_cons] at hmarks
    exact ⟨hmarks.1, hmarks.2.2.1, hmarks.2.2.2.1⟩
  · exact hliteral (by decide)
  · exact hliteral (by decide)

theorem Key.trimmed_source (key : Key) : Trimmed key.source := by
  rw [source]
  split
  · next hform => exact key.trimmed hform
  · exact trimmed_enclosed rfl _ rfl
  · exact trimmed_enclosed rfl _ rfl

theorem Key.source_ne_nil (key : Key) : key.source ≠ [] := by
  rw [source]
  split
  · intro hnil
    exact absurd key.notBlank (by rw [hnil]; decide)
  · exact List.cons_ne_nil _ _
  · exact List.cons_ne_nil _ _

/-- No key has a colon, so that the first colon of a member is the one behind its key. -/
theorem Key.colon_not_mem_source (key : Key) : ':' ∉ key.source := by
  have hname : ':' ∉ key.name := key.not_mem_name (by decide)
  rw [source]
  split <;> simpa using hname

/-- The name that is read from a key is its own. -/
theorem Key.keyName_source (key : Key) {after : List Char} (h : blank after = true) :
    keyName (key.source ++ after) = key.name := by
  have htrim : trim (key.source ++ after) = key.source :=
    (@trim_padded [] _ rfl h key.source).trans key.trimmed_source.trim_eq
  rw [keyName, htrim]
  cases hform : key.form with
  | bare =>
    have hnone {quote : Char} (hquote : quote ∈ keyMarks) : between? quote quote key.name = none :=
      between?_eq_none (key.not_mem_name hquote)
    simp only [source, hform, hnone (show '"' ∈ keyMarks by decide),
      hnone (show '\'' ∈ keyMarks by decide)]
    rfl
  | singleQuoted =>
    have hdouble : between? '"' '"' ('\'' :: key.name ++ ['\'']) = none := by
      rw [List.cons_append, between?, if_neg (by simp)]
    simp only [source, hform, hdouble, between?_enclosed]
    rfl
  | doubleQuoted => simp only [source, hform, between?_enclosed]

/-- The text of the value as the reader finds it. -/
def Member.valueText (m : Member) : List Char :=
  trimEnd (m.beforeValue ++ m.text ++ m.afterValue)

theorem Member.readValue?_valueText (m : Member) : readValue? m.valueText = some m.value := by
  rw [← readValue?_trim, valueText, trim_trimEnd,
    trim_padded m.beforeValue.property m.afterValue.property, readValue?_trim]
  exact m.read

/-- Without the white space around it a member is its key, the colon and the text of its value. -/
theorem Member.trim_source (m : Member) :
    trim m.source = (m.key.source ++ m.afterKey) ++ ':' :: m.valueText := by
  let rest := m.beforeValue ++ m.text ++ m.afterValue
  have hsource : m.source = m.beforeKey ++ ((m.key.source ++ m.afterKey) ++ ':' :: rest) := by
    simp only [source, rest, List.append_assoc]
  have hhead : ∀ c ∈ ((m.key.source ++ m.afterKey) ++ ':' :: rest).head?, isBlank c = false := by
    rw [List.append_assoc, List.head?_append_of_ne_nil _ m.key.source_ne_nil]
    exact m.key.trimmed_source.1
  rw [trim, hsource, trimStart_append_left m.beforeKey.property, trimStart,
    dropWhile_isBlank_eq_self hhead, trimEnd_append_cons (by decide)]
  rfl

theorem Member.closed_source (m : Member) : Closed m.source := by
  have hcolon : Balanced [':'] := balanced_of_forall (by simp [nestingMarks, quotes])
  have hfront : Balanced (m.beforeKey ++ m.key.source ++ m.afterKey ++ [':']) :=
    (((balanced_of_blank m.beforeKey.property).append m.key.balanced_source).append
      (balanced_of_blank m.afterKey.property)).append hcolon
  have hclosed := hfront.append_closed
    (m.closed.padded m.beforeValue.property m.afterValue.property)
  rwa [List.append_assoc _ [':'], List.singleton_append] at hclosed

theorem Member.blank_source (m : Member) : blank m.source = false := by
  have hcolon : isBlank ':' = false := by decide
  simp [source, blank, hcolon]

/-- A member is split behind its key. -/
theorem Member.splitAtColon?_source (m : Member) :
    splitAtColon? (trim m.source) = some (m.key.source ++ m.afterKey, m.valueText) := by
  have hcolon : ':' ∉ m.key.source ++ m.afterKey := by
    rw [List.mem_append, not_or]
    refine ⟨m.key.colon_not_mem_source, fun hmem ↦ ?_⟩
    exact absurd (List.all_eq_true.mp m.afterKey.property _ hmem) (by decide)
  rw [m.trim_source, splitAtColon?_append hcolon]

/-- The reader finds the members of an object, and nothing else. -/
theorem entryTexts_objectText (before after : Blanks) (members : List Member)
    (gaps : List Blanks) :
    entryTexts (objectText before after members gaps) =
      members.map fun m ↦ (String.ofList m.key.name, m.valueText) := by
  have hsources : ∀ text ∈ members.map Member.source, Closed text ∧ blank text = false :=
    List.forall_mem_map.mpr fun m _ ↦ ⟨m.closed_source, m.blank_source⟩
  rw [entryTexts, objectText, trim_padded before.property after.property,
    (trimmed_enclosed rfl _ rfl).trim_eq, stripEnds_enclosed, splitAtCommas_listed gaps hsources,
    List.filterMap_append, List.map_map, List.filterMap_map, ← List.filterMap_eq_map]
  -- An empty text has no colon.
  rw [List.filterMap_replicate_of_none rfl, List.append_nil]
  refine List.filterMap_congr fun m _ ↦ ?_
  simp only [Function.comp_apply, m.splitAtColon?_source,
    m.key.keyName_source m.afterKey.property, m.key.notBlank, if_neg Bool.false_ne_true]

/-- An object is read, in any layout, and as its members, of which the last of a name counts. -/
theorem readProperties_objectText (before after : Blanks) (members : List Member)
    (gaps : List Blanks) :
    let text := objectText before after members gaps
    readValue? text = some (.object (readProperties text)) ∧
      readProperties text = Dictionary.ofEntries (members.map Member.entry) ∧
      ∀ name, (readProperties text).get? name =
        (members.map Member.entry).reverse.lookup name := by
  intro text
  have hentries := entryTexts_objectText before after members gaps
  have hproperties : readProperties text = Dictionary.ofEntries (members.map Member.entry) := by
    rw [readProperties, hentries, List.map_map]
    refine congrArg Dictionary.ofEntries (List.map_congr_left fun m _ ↦ ?_)
    change (String.ofList m.key.name, (readValue? m.valueText).getD .null) = m.entry
    rw [m.readValue?_valueText]
    rfl
  have htrim : trim text = '{' :: listed (members.map Member.source) gaps ++ ['}'] :=
    (trim_padded before.property after.property _).trans (trimmed_enclosed rfl _ rfl).trim_eq
  refine ⟨?_, hproperties, fun name ↦ ?_⟩
  · rw [hproperties]
    refine readValue?_of_object (htrim ▸ shape_brace _) ?_
    rw [entryTexts_trim, hentries, List.forall₂_map_left_iff, List.forall₂_map_right_iff,
      List.forall₂_same]
    intro m hm
    have hmem : (String.ofList m.key.name, m.valueText) ∈ entryTexts text :=
      hentries ▸ List.mem_map_of_mem hm
    exact ⟨rfl, length_lt_of_mem_entryTexts hmem, m.readValue?_valueText⟩
  · rw [hproperties]
    exact Dictionary.get?_ofEntries _ name

/-- Keys of the three forms, of which two have one name; colons in a literal and in an object, white
space of several kinds, and a comma before the brace. -/
theorem readProperties_objectText_repeated_key :
    let text := "\n\x7bk : \x60a:b\x60 ,\"é 1\":\x7bx:[1,2]\x7d,'k'\t:\u3000 , \x7d".toList
    readValue? text = some (.object (readProperties text)) ∧
      (readProperties text).get? "k" = some (.str "") ∧
      (readProperties text).get? "é 1" = some (.object [("x", .array [.int 1, .int 2])]) := by
  intro text
  let narrow : Blanks := ⟨[], rfl⟩
  let space : Blanks := ⟨" ".toList, rfl⟩
  let bareKey : Key :=
    { name := ['k'], form := .bare, notBlank := by decide
      plain := by simp [keyMarks, nestingMarks, quotes]
      trimmed := fun _ ↦ trimmed_of_forall (by simp [isBlank]) }
  let doubleKey : Key :=
    { name := "é 1".toList, form := .doubleQuoted, notBlank := by decide
      plain := by simp [keyMarks, nestingMarks, quotes], trimmed := fun h ↦ KeyForm.noConfusion h }
  let singleKey : Key :=
    { bareKey with form := .singleQuoted, trimmed := fun h ↦ KeyForm.noConfusion h }
  let first : Member :=
    { text := "\x60a:b\x60".toList, value := .str "a:b"
      noTopComma := (parts_eq_singleton_iff _).mp (by decide), atTop := by decide
      read := @readValue?_of_readWithin 1 _ _ rfl
      key := bareKey, beforeKey := narrow, afterKey := space, beforeValue := space
      afterValue := space }
  let second : Member :=
    { text := "\x7bx:[1,2]\x7d".toList, value := .object [("x", .array [.int 1, .int 2])]
      noTopComma := (parts_eq_singleton_iff _).mp (by decide), atTop := by decide
      read := @readValue?_of_readWithin 3 _ _ rfl
      key := doubleKey, beforeKey := narrow, afterKey := narrow, beforeValue := narrow
      afterValue := narrow }
  let third : Member :=
    { text := [], value := .str ""
      noTopComma := (parts_eq_singleton_iff _).mp (by decide), atTop := by decide
      read := @readValue?_of_readWithin 1 _ _ rfl
      key := singleKey, beforeKey := narrow, afterKey := ⟨"\t".toList, rfl⟩
      beforeValue := ⟨"\u3000".toList, rfl⟩, afterValue := space }
  have htext : objectText ⟨"\n".toList, rfl⟩ narrow [first, second, third] [space] = text := by
    decide
  obtain ⟨hread, -, hget⟩ :=
    readProperties_objectText ⟨"\n".toList, rfl⟩ narrow [first, second, third] [space]
  rw [htext] at hread hget
  exact ⟨hread, hget "k", hget "é 1"⟩

end PluginRecovery.Script
