import Mathlib
import PluginRecovery.Proofs.Script.CommentScan
import PluginRecovery.Proofs.Text.Trimming
import PluginRecovery.Script.Braces

/-!
Splitting at commas, read character by character. The splitter looks at bytes, and all that it looks
for is ASCII, so it cuts between characters: `splitAtCommas_eq_parts` says that it gives the trimmed
parts of the text, but for the empty ones. A text reads from one cursor to another (`Reads`) when it
meets no comma at the top on the way. Such texts can be put together, and texts that are closed,
each of which leads back to the top, are what the splitter finds in their join with commas.
-/

set_option autoImplicit false
set_option relaxedAutoImplicit false

namespace PluginRecovery.Script

open PluginRecovery.Text

/-! ### The parts of a text -/

/-- The characters that may change the nesting. -/
def nestingMarks : List Char :=
  quotes ++ ['{', '}', '[', ']']

/-- The nesting after a character. -/
def Nesting.read (n : Nesting) (escaped : Bool) (c : Char) : Nesting :=
  if c ∈ quotes ∧ escaped = false then { n with inside := toggle n.inside c.toUInt8 }
  else if n.inside.isSome then n
  else if c = '{' then { n with braces := n.braces + 1 }
  else if c = '}' then { n with braces := n.braces - 1 }
  else if c = '[' then { n with brackets := n.brackets + 1 }
  else if c = ']' then { n with brackets := n.brackets - 1 }
  else n

/-- Where the splitter is: the nesting, and whether an odd number of backslashes comes before. -/
structure Cursor where
  nesting : Nesting := {}
  escaped : Bool := false

def Cursor.next (cursor : Cursor) (c : Char) : Cursor :=
  ⟨cursor.nesting.read cursor.escaped c, c = '\\' && !cursor.escaped⟩

def Cursor.after (cursor : Cursor) (text : List Char) : Cursor :=
  text.foldl Cursor.next cursor

/-- What stands between the commas at the top. -/
def parts (cursor : Cursor) : List Char → List (List Char)
  | [] => [[]]
  | c :: rest =>
    if c = ',' ∧ cursor.nesting.isTop then [] :: parts (cursor.next c) rest
    else (parts (cursor.next c) rest).modifyHead (c :: ·)

/-! ### The splitter finds the parts -/

theorem escapedAfter_cons (b : UInt8) (before : List UInt8) :
    escapedAfter (b :: before) = (isBackslash b && !escapedAfter before) := by
  unfold escapedAfter
  cases hb : isBackslash b with
  | false => simp [hb]
  | true =>
    rw [List.takeWhile_cons_of_pos hb, List.length_cons, Bool.true_and, Bool.eq_iff_iff]
    simp only [beq_iff_eq, Bool.not_eq_true', beq_eq_false_iff_ne]
    omega

/-- A byte changes the nesting as a character does that no test for ASCII tells from it. -/
theorem Nesting.step_eq_read {b : UInt8} {c : Char} (h : AsciiAlike b c) (n : Nesting)
    (before : List UInt8) : n.step before b = n.read (escapedAfter before) c := by
  have hquote : isQuote b = decide (c ∈ quotes) := by
    rw [Bool.eq_iff_iff, isQuote_iff, decide_eq_true_iff]
    exact h.mem_iff fun _ ↦ toNat_lt_of_mem_quotes
  have htoggle : c ∈ quotes → b = c.toUInt8 := fun hc ↦
    (h.eq_iff (toNat_lt_of_mem_quotes hc)).mpr rfl
  have hopen : (b == '{'.toUInt8) = decide (c = '{') := h.beq_eq (by decide)
  have hclose : (b == '}'.toUInt8) = decide (c = '}') := h.beq_eq (by decide)
  have hopenBracket : (b == '['.toUInt8) = decide (c = '[') := h.beq_eq (by decide)
  have hcloseBracket : (b == ']'.toUInt8) = decide (c = ']') := h.beq_eq (by decide)
  simp only [Nesting.step, Nesting.read, hquote, hopen, hclose, hopenBracket, hcloseBracket,
    Bool.and_eq_true, Bool.not_eq_true', decide_eq_true_eq]
  by_cases hc : c ∈ quotes ∧ escapedAfter before = false
  · rw [if_pos hc, if_pos hc, htoggle hc.1]
  · rw [if_neg hc, if_neg hc]

theorem Nesting.read_of_notMem {c : Char} (h : c ∉ nestingMarks) (n : Nesting) (escaped : Bool) :
    n.read escaped c = n := by
  simp only [nestingMarks, List.mem_append, not_or] at h
  obtain ⟨hquote, hbrackets⟩ := h
  simp_all [Nesting.read]

/-- The splitter reads a byte as the character that it is like. -/
theorem segmentsFrom_cons {b : UInt8} {c : Char} (h : AsciiAlike b c) (n : Nesting)
    (before segment data : List UInt8) :
    segmentsFrom n before segment (b :: data) =
      if c = ',' ∧ n.isTop then segment.reverse :: segmentsFrom n (b :: before) [] data
      else segmentsFrom (n.read (escapedAfter before) c) (b :: before) (b :: segment) data := by
  have hcomma : (b == ','.toUInt8) = decide (c = ',') := h.beq_eq (by decide)
  simp only [segmentsFrom, hcomma, Nesting.step_eq_read h, Bool.and_eq_true, decide_eq_true_eq]

/-- Bytes that are not ASCII belong to the segment that the splitter is in. -/
theorem segmentsFrom_append_of_le {high : List UInt8} (hhigh : ∀ b ∈ high, 0x80 ≤ b)
    (n : Nesting) (before segment data : List UInt8) :
    segmentsFrom n before segment (high ++ data) =
      segmentsFrom n (high.reverse ++ before) (high.reverse ++ segment) data := by
  induction high generalizing before segment with
  | nil => rfl
  | cons b high ih =>
    have halike := asciiAlike_replacement (hhigh b List.mem_cons_self)
    have hread := Nesting.read_of_notMem (by decide : replacement ∉ nestingMarks) n
      (escapedAfter before)
    have hcomma : ¬ (replacement = ',' ∧ n.isTop) := fun h ↦ absurd h.1 (by decide)
    rw [List.cons_append, segmentsFrom_cons halike, if_neg hcomma, hread,
      ih fun d hd ↦ hhigh d (List.mem_cons_of_mem b hd)]
    simp

/-- What is escaped after a character. -/
theorem escapedAfter_reverse_utf8EncodeChar (c : Char) (before : List UInt8) :
    escapedAfter ((String.utf8EncodeChar c).reverse ++ before) =
      (c = '\\' && !escapedAfter before) := by
  obtain ⟨last, front, hbytes, halike⟩ := exists_reverse_utf8EncodeChar c
  have hbackslash : isBackslash last = decide (c = '\\') := halike.beq_eq (by decide)
  rw [hbytes, List.cons_append, escapedAfter_cons, hbackslash]
  by_cases hc : c = '\\'
  · subst c
    have hone : (String.utf8EncodeChar '\\').reverse = ['\\'.toUInt8] := by decide
    rw [hone] at hbytes
    rw [← (List.cons.inj hbytes).2, List.nil_append]
  · rw [decide_eq_false hc, Bool.false_and, Bool.false_and]

/-- All bytes of a character go to the same segment, except that a comma at the top ends one. -/
theorem segmentsFrom_utf8EncodeChar (n : Nesting) (before segment : List UInt8) (c : Char)
    (data : List UInt8) :
    segmentsFrom n before segment (String.utf8EncodeChar c ++ data) =
      if c = ',' ∧ n.isTop then
        segment.reverse ::
          segmentsFrom n ((String.utf8EncodeChar c).reverse ++ before) [] data
      else
        segmentsFrom (n.read (escapedAfter before) c)
          ((String.utf8EncodeChar c).reverse ++ before)
          ((String.utf8EncodeChar c).reverse ++ segment) data := by
  by_cases hc : c = ',' ∧ n.isTop
  · obtain ⟨rfl, htop⟩ := hc
    have hone : String.utf8EncodeChar ',' = [','.toUInt8] := by decide
    have halike : AsciiAlike ','.toUInt8 ',' := Or.inl ⟨by decide, rfl⟩
    rw [hone, List.singleton_append, segmentsFrom_cons halike, if_pos ⟨rfl, htop⟩,
      if_pos ⟨rfl, htop⟩]
    rfl
  · obtain ⟨first, tail, hbytes, halike, htail⟩ := exists_utf8EncodeChar_eq_cons c
    rw [hbytes, List.cons_append, segmentsFrom_cons halike, if_neg hc, if_neg hc,
      segmentsFrom_append_of_le htail]
    simp

theorem modifyHead_nil_append {α : Type} (lists : List (List α)) :
    lists.modifyHead ([] ++ ·) = lists := by
  cases lists <;> rfl

theorem map_bytes_modifyHead (c : Char) (texts : List (List Char)) :
    (texts.modifyHead (c :: ·)).map bytes =
      (texts.map bytes).modifyHead (String.utf8EncodeChar c ++ ·) := by
  cases texts with
  | nil => rfl
  | cons text texts =>
    rw [List.modifyHead_cons, List.map_cons, List.map_cons, List.modifyHead_cons, bytes_cons]

/-- The segments of the bytes are the bytes of the parts. -/
theorem segmentsFrom_bytes (n : Nesting) (before segment : List UInt8) (text : List Char) :
    segmentsFrom n before segment (bytes text) =
      ((parts ⟨n, escapedAfter before⟩ text).map bytes).modifyHead (segment.reverse ++ ·) := by
  induction text generalizing n before segment with
  | nil => simp [segmentsFrom, parts]
  | cons c text ih =>
    rw [bytes_cons, segmentsFrom_utf8EncodeChar, parts]
    by_cases hc : c = ',' ∧ n.isTop
    · rw [if_pos hc, if_pos hc, ih, escapedAfter_reverse_utf8EncodeChar, Cursor.next, hc.1,
        Nesting.read_of_notMem (by decide), List.reverse_nil, modifyHead_nil_append]
      simp
    · rw [if_neg hc, if_neg hc, ih, escapedAfter_reverse_utf8EncodeChar, Cursor.next,
        map_bytes_modifyHead, List.modifyHead_modifyHead]
      simp only [List.reverse_append, List.reverse_reverse, List.append_assoc, Function.comp_def]

theorem isEmpty_bytes (text : List Char) : (bytes text).isEmpty = text.isEmpty := by
  cases text with
  | nil => rfl
  | cons c text =>
    obtain ⟨first, tail, hbytes, -, -⟩ := exists_utf8EncodeChar_eq_cons c
    rw [bytes_cons, hbytes]
    rfl

/-- The segments of a text's bytes are the bytes of its parts. -/
theorem segments_bytes (text : List Char) : segments (bytes text) = (parts {} text).map bytes := by
  rw [segments, segmentsFrom_bytes, List.reverse_nil, modifyHead_nil_append]
  rfl

/-- The splitter gives the parts of the text that are not empty, each trimmed. -/
theorem splitAtCommas_eq_parts (text : List Char) :
    splitAtCommas text = ((parts {} text).filter (!·.isEmpty)).map trim := by
  rw [splitAtCommas, segments_bytes, List.filter_map, List.map_map]
  simp only [Function.comp_def, isEmpty_bytes, decode_bytes]

/-! ### Putting texts together -/

theorem parts_ne_nil (cursor : Cursor) (text : List Char) : parts cursor text ≠ [] := by
  cases text with
  | nil => exact List.cons_ne_nil [] []
  | cons c text =>
    rw [parts]
    split_ifs
    · exact List.cons_ne_nil _ _
    · rw [Ne, List.modifyHead_eq_nil_iff]
      exact parts_ne_nil (cursor.next c) text

/-- The text meets no comma at the top on the way from one cursor to the other. -/
def Reads (text : List Char) (start stop : Cursor) : Prop :=
  parts start text = [text] ∧ start.after text = stop

theorem reads_nil (cursor : Cursor) : Reads [] cursor cursor :=
  ⟨rfl, rfl⟩

theorem Reads.cons {c : Char} {text : List Char} {start middle stop : Cursor}
    (hc : ¬ (c = ',' ∧ start.nesting.isTop)) (hnext : start.next c = middle)
    (h : Reads text middle stop) : Reads (c :: text) start stop := by
  subst middle
  obtain ⟨hparts, hafter⟩ := h
  refine ⟨?_, hafter⟩
  rw [parts, if_neg hc, hparts]
  rfl

/-- After a text without a comma at the top the parts go on. -/
theorem Reads.parts_append {text : List Char} {start stop : Cursor} (h : Reads text start stop)
    (rest : List Char) : parts start (text ++ rest) = (parts stop rest).modifyHead (text ++ ·) := by
  induction text generalizing start with
  | nil =>
    obtain ⟨-, rfl⟩ := h
    exact (modifyHead_nil_append _).symm
  | cons c text ih =>
    obtain ⟨hparts, hafter⟩ := h
    rw [parts] at hparts
    by_cases hc : c = ',' ∧ start.nesting.isTop
    · rw [if_pos hc] at hparts
      exact absurd (List.cons.inj hparts).1.symm (List.cons_ne_nil c text)
    · rw [if_neg hc] at hparts
      obtain ⟨head, tail, hrest⟩ := List.exists_cons_of_ne_nil (parts_ne_nil (start.next c) text)
      have hone : parts (start.next c) text = [text] := by
        rw [hrest, List.modifyHead_cons] at hparts
        obtain ⟨hhead, rfl⟩ := List.cons.inj hparts
        rw [hrest, (List.cons.inj hhead).2]
      rw [List.cons_append, parts, if_neg hc, ih ⟨hone, hafter⟩, List.modifyHead_modifyHead]
      rfl

/-- Texts that are read one after the other are read as one. -/
theorem Reads.append {front back : List Char} {start middle stop : Cursor}
    (hfront : Reads front start middle) (hback : Reads back middle stop) :
    Reads (front ++ back) start stop := by
  constructor
  · rw [hfront.parts_append, hback.1]
    rfl
  · rw [Cursor.after, List.foldl_append]
    exact (congrArg (List.foldl Cursor.next · back) hfront.2).trans hback.2

theorem Reads.flatMap {α : Type} {f : α → List Char} {cursor : Cursor}
    (h : ∀ a, Reads (f a) cursor cursor) (items : List α) :
    Reads (items.flatMap f) cursor cursor := by
  induction items with
  | nil => exact reads_nil cursor
  | cons a items ih =>
    rw [List.flatMap_cons]
    exact (h a).append ih

/-- Below the top a comma is read as any other character. -/
theorem Reads.intercalate {texts : List (List Char)} {n : Nesting} (hn : n.isTop = false)
    (h : ∀ text ∈ texts, Reads text ⟨n, false⟩ ⟨n, false⟩) :
    Reads ([','].intercalate texts) ⟨n, false⟩ ⟨n, false⟩ := by
  induction texts with
  | nil => exact reads_nil _
  | cons text texts ih =>
    have htext := h text List.mem_cons_self
    have hrest := ih fun t ht ↦ h t (List.mem_cons_of_mem text ht)
    have hnext : Cursor.next ⟨n, false⟩ ',' = ⟨n, false⟩ := by
      rw [Cursor.next, Nesting.read_of_notMem (by decide)]
      rfl
    cases texts with
    | nil =>
      rw [List.intercalate_singleton]
      exact htext
    | cons next texts =>
      rw [List.intercalate_cons_cons, List.append_assoc, List.singleton_append]
      refine htext.append (.cons ?_ hnext hrest)
      rw [hn]
      simp

/-- The parts on either side of a comma are those of the two texts. -/
theorem parts_append_comma {start : Cursor} {front : List Char}
    (h : (start.after front).nesting = {}) (back : List Char) :
    parts start (front ++ ',' :: back) = parts start front ++ parts {} back := by
  induction front generalizing start with
  | nil =>
    have hstart : start.nesting = {} := h
    have hnext : start.next ',' = {} := by
      rw [Cursor.next, hstart, Nesting.read_of_notMem (by decide)]
      rfl
    rw [List.nil_append, parts, parts, if_pos ⟨rfl, by rw [hstart]; rfl⟩, hnext]
    rfl
  | cons c front ih =>
    rw [List.cons_append, parts, parts, ih h]
    by_cases hc : c = ',' ∧ start.nesting.isTop
    · rw [if_pos hc, if_pos hc]
      rfl
    · obtain ⟨head, tail, hfront⟩ := List.exists_cons_of_ne_nil (parts_ne_nil (start.next c) front)
      rw [if_neg hc, if_neg hc, hfront]
      rfl

/-- The text has no comma at the top and ends at the top. -/
def Closed (text : List Char) : Prop :=
  parts {} text = [text] ∧ (Cursor.after {} text).nesting = {}

theorem Reads.closed {text : List Char} {stop : Cursor} (h : Reads text {} stop)
    (hstop : stop.nesting = {}) : Closed text :=
  ⟨h.1, by rw [h.2, hstop]⟩

/-- A closed text is read from the top to the top. -/
theorem Closed.reads {text : List Char} (h : Closed text) :
    Reads text {} ⟨{}, (Cursor.after {} text).escaped⟩ :=
  ⟨h.1, congrArg (Cursor.mk · (Cursor.after {} text).escaped) h.2⟩

/-- Closed texts are the parts of their join with commas. -/
theorem parts_intercalate {texts : List (List Char)} (hne : texts ≠ [])
    (h : ∀ text ∈ texts, Closed text) : parts {} ([','].intercalate texts) = texts := by
  induction texts with
  | nil => exact absurd rfl hne
  | cons text texts ih =>
    obtain ⟨hparts, hafter⟩ := h text List.mem_cons_self
    cases texts with
    | nil => rw [List.intercalate_singleton, hparts]
    | cons next texts =>
      have hrest := ih (List.cons_ne_nil next texts) fun t ht ↦ h t (List.mem_cons_of_mem text ht)
      rw [List.intercalate_cons_cons, List.append_assoc, List.singleton_append,
        parts_append_comma hafter, hparts, hrest]
      rfl

/-- A text is no longer than a join that it is part of. -/
theorem length_le_length_intercalate {texts : List (List Char)} {text : List Char}
    (h : text ∈ texts) : text.length ≤ ([','].intercalate texts).length := by
  induction texts with
  | nil => exact absurd h List.not_mem_nil
  | cons first texts ih =>
    cases texts with
    | nil => rw [List.intercalate_singleton, List.mem_singleton.mp h]
    | cons next texts =>
      rw [List.intercalate_cons_cons, List.length_append, List.length_append]
      rcases List.mem_cons.mp h with rfl | h
      · omega
      · have hle := ih h
        omega

/-- The splitter finds closed texts in their join with commas, but for the empty ones. -/
theorem splitAtCommas_intercalate_of_closed {texts : List (List Char)}
    (h : ∀ text ∈ texts, Closed text) :
    splitAtCommas ([','].intercalate texts) = (texts.filter (!·.isEmpty)).map trim := by
  rw [splitAtCommas_eq_parts]
  by_cases hnil : texts = []
  · rw [hnil]
    rfl
  · rw [parts_intercalate hnil h]

/-- Closed texts with commas between them are split into these texts, trimmed. -/
theorem splitAtCommas_intercalate {texts : List (List Char)} (hne : ∀ text ∈ texts, text ≠ [])
    (h : ∀ text ∈ texts, Closed text) :
    splitAtCommas ([','].intercalate texts) = texts.map trim := by
  have hall : texts.filter (!·.isEmpty) = texts := by
    rw [List.filter_eq_self]
    intro text htext
    simpa using hne text htext
  rw [splitAtCommas_intercalate_of_closed h, hall]

/-- The splitter finds texts that are trimmed, too, as they are. -/
theorem splitAtCommas_intercalate_eq_self {texts : List (List Char)}
    (h : ∀ text ∈ texts, text ≠ [] ∧ Closed text ∧ Trimmed text) :
    splitAtCommas ([','].intercalate texts) = texts := by
  have htrim : texts.map trim = texts.map id :=
    List.map_congr_left fun text htext ↦ (h text htext).2.2.trim_eq
  rw [splitAtCommas_intercalate (fun text htext ↦ (h text htext).1)
    fun text htext ↦ (h text htext).2.1, htrim, List.map_id]

end PluginRecovery.Script
