import Mathlib
import PluginRecovery.Proofs.Script.Splitting
import PluginRecovery.Proofs.Script.TokenSequence
import PluginRecovery.Proofs.Text.Slices

/-!
Matching braces, read character by character. All that the search for a closing brace looks for is
ASCII, so it reads the bytes of a text as its characters (`closingFrom_bytes`). Whatever it finds is
a closing brace (`getElem?_of_closingBrace?`), which cuts the text behind the open one
(`exists_inner_of_closingBrace?`). A text is `Nested` when its literals are complete and its braces
outside of them match. The search walks through such a text (`Nested.walks`): it comes out as deep
as it went in, outside every literal and after no backslash. So it finds the brace right behind the
text, whatever stands before and after (`closingBrace?_nested`).
-/

set_option autoImplicit false
set_option relaxedAutoImplicit false

namespace PluginRecovery.Script

open PluginRecovery.Text

/-! ### The search by characters -/

/-- The quotes of the literals in which braces do not count. -/
def stringQuotes : List Char :=
  ['"', '\'']

theorem toNat_lt_of_mem_stringQuotes {c : Char} (h : c ∈ stringQuotes) : c.toNat < 0x80 :=
  toNat_lt_of_mem_quotes (List.mem_append_left ['`'] h)

/-- Where the search stands: the open literal, the number of braces that are open within the one to
be closed, and whether an odd number of backslashes comes before. -/
structure Level where
  inside : Option UInt8
  depth : ℕ
  escaped : Bool

/-- The character is the brace that the search is for. -/
def Level.IsClosed (level : Level) (c : Char) : Prop :=
  level.inside = none ∧ c = '}' ∧ level.depth = 0

instance (level : Level) (c : Char) : Decidable (level.IsClosed c) :=
  inferInstanceAs (Decidable (_ ∧ _ ∧ _))

/-- The level after a character that is not the brace that the search is for. -/
def Level.next (level : Level) (c : Char) : Level where
  inside :=
    if c ∈ stringQuotes ∧ level.escaped = false then toggle level.inside c.toUInt8
    else level.inside
  depth :=
    if level.inside = none ∧ c = '{' then level.depth + 1
    else if level.inside = none ∧ c = '}' then level.depth - 1
    else level.depth
  escaped := c = '\\' && !level.escaped

/-- The characters that may change the level. -/
def levelMarks : List Char :=
  stringQuotes ++ ['{', '}', '\\']

/-- The offset of the brace that the search is for, when the text begins at `offset`. -/
def closing? (level : Level) (offset : ℕ) : List Char → Option ℕ
  | [] => none
  | c :: rest =>
    if level.IsClosed c then some offset
    else closing? (level.next c) (offset + c.utf8Size) rest

theorem Level.not_isClosed_of_notMem {c : Char} (h : c ∉ levelMarks) (level : Level) :
    ¬ level.IsClosed c := by
  rintro ⟨-, rfl, -⟩
  exact absurd h (by decide)

theorem Level.next_of_notMem {c : Char} (h : c ∉ levelMarks) (level : Level) :
    level.next c = ⟨level.inside, level.depth, false⟩ := by
  simp only [levelMarks, List.mem_append, not_or] at h
  obtain ⟨hquote, hmarks⟩ := h
  simp_all [Level.next]

/-- The search reads a byte as the character that it is like. -/
theorem closingFrom_cons {b : UInt8} {c : Char} (halike : AsciiAlike b c) (level : Level)
    {before : List UInt8} (h : escapedAfter before = level.escaped) (offset : ℕ)
    (data : List UInt8) :
    closingFrom before level.inside level.depth offset (b :: data) =
      if level.IsClosed c then some offset
      else closingFrom (b :: before) (level.next c).inside (level.next c).depth (offset + 1)
        data := by
  obtain ⟨inside, depth, escaped⟩ := level
  have hopen : (b == '{'.toUInt8) = decide (c = '{') := halike.beq_eq (by decide)
  have hclose : (b == '}'.toUInt8) = decide (c = '}') := halike.beq_eq (by decide)
  have hquote : (b == '"'.toUInt8 || b == '\''.toUInt8) = decide (c ∈ stringQuotes) := by
    rw [halike.beq_eq (by decide), halike.beq_eq (by decide)]
    simp [stringQuotes]
  have hstep : closingFrom before inside depth offset (b :: data) =
      if c ∈ stringQuotes ∧ escaped = false then
        closingFrom (b :: before) (toggle inside b) depth (offset + 1) data
      else if inside = none ∧ c = '{' then
        closingFrom (b :: before) inside (depth + 1) (offset + 1) data
      else if inside = none ∧ c = '}' then
        if depth = 0 then some offset
        else closingFrom (b :: before) inside (depth - 1) (offset + 1) data
      else closingFrom (b :: before) inside depth (offset + 1) data := by
    cases depth <;> simp [closingFrom, hquote, hopen, hclose, h]
  rw [hstep]
  by_cases hc : c ∈ stringQuotes ∧ escaped = false
  · have htoggle : b = c.toUInt8 := (halike.eq_iff (toNat_lt_of_mem_stringQuotes hc.1)).mpr rfl
    have hne : c ≠ '{' ∧ c ≠ '}' := by
      constructor <;> rintro rfl <;> exact absurd hc.1 (by decide)
    simp [hc, hne, htoggle, Level.IsClosed, Level.next]
  · have hinside : (Level.next ⟨inside, depth, escaped⟩ c).inside = inside := if_neg hc
    rw [if_neg hc, hinside]
    by_cases hnone : inside = none
    · by_cases hbrace : c = '}'
      · simp [hnone, hbrace, Level.IsClosed, Level.next]
      · by_cases hbrace' : c = '{' <;>
          simp [hnone, hbrace, hbrace', Level.IsClosed, Level.next]
    · simp [hnone, Level.IsClosed, Level.next]

/-- Bytes that are not ASCII change nothing. -/
theorem closingFrom_append_of_le {high : List UInt8} (hhigh : ∀ b ∈ high, 0x80 ≤ b)
    (inside : Option UInt8) (depth offset : ℕ) (before data : List UInt8) :
    closingFrom before inside depth offset (high ++ data) =
      closingFrom (high.reverse ++ before) inside depth (offset + high.length) data := by
  induction high generalizing before offset with
  | nil => rfl
  | cons b high ih =>
    have halike := asciiAlike_replacement (hhigh b List.mem_cons_self)
    have hmark : replacement ∉ levelMarks := by decide
    have hstep := closingFrom_cons halike ⟨inside, depth, escapedAfter before⟩ rfl offset
      (high ++ data)
    rw [if_neg (Level.not_isClosed_of_notMem hmark _), Level.next_of_notMem hmark] at hstep
    rw [List.cons_append, hstep, ih fun d hd ↦ hhigh d (List.mem_cons_of_mem b hd)]
    simp [Nat.add_assoc, Nat.add_comm 1]

/-- The search of bytes takes a character as the search of characters does: either it ends there, or
it goes on at the next level. -/
theorem closingFrom_utf8EncodeChar {level : Level} {before : List UInt8}
    (h : escapedAfter before = level.escaped) (offset : ℕ) (c : Char) (data : List UInt8) :
    closingFrom before level.inside level.depth offset (String.utf8EncodeChar c ++ data) =
      if level.IsClosed c then some offset
      else closingFrom ((String.utf8EncodeChar c).reverse ++ before) (level.next c).inside
        (level.next c).depth (offset + c.utf8Size) data := by
  obtain ⟨first, tail, hbytes, halike, htail⟩ := exists_utf8EncodeChar_eq_cons c
  have hsize : c.utf8Size = tail.length + 1 := by
    rw [← String.length_utf8EncodeChar, hbytes, List.length_cons]
  rw [hbytes, List.cons_append, closingFrom_cons halike level h]
  by_cases hclosed : level.IsClosed c
  · rw [if_pos hclosed, if_pos hclosed]
  · rw [if_neg hclosed, if_neg hclosed, closingFrom_append_of_le htail, hsize]
    simp [Nat.add_assoc, Nat.add_comm 1]

/-- The search in the bytes of a text is the search in the text. -/
theorem closingFrom_bytes (level : Level) {before : List UInt8}
    (h : escapedAfter before = level.escaped) (offset : ℕ) (text : List Char) :
    closingFrom before level.inside level.depth offset (bytes text) =
      closing? level offset text := by
  induction text generalizing level before offset with
  | nil => rfl
  | cons c text ih =>
    have hnext : escapedAfter ((String.utf8EncodeChar c).reverse ++ before) =
        (level.next c).escaped := by
      rw [escapedAfter_reverse_utf8EncodeChar, h]
      rfl
    rw [bytes_cons, closingFrom_utf8EncodeChar h, closing?, ih _ hnext]

/-! ### What is found -/

/-- What is found is a closing brace. -/
theorem getElem?_of_closingFrom {before data : List UInt8} {inside : Option UInt8}
    {depth offset stop : ℕ} (h : closingFrom before inside depth offset data = some stop) :
    offset ≤ stop ∧ data[stop - offset]? = some '}'.toUInt8 := by
  induction data generalizing before inside depth offset with
  | nil => simp [closingFrom] at h
  | cons b data ih =>
    have hlater {before : List UInt8} {inside : Option UInt8} {depth : ℕ}
        (h : closingFrom before inside depth (offset + 1) data = some stop) :
        offset ≤ stop ∧ (b :: data)[stop - offset]? = some '}'.toUInt8 := by
      obtain ⟨hle, hbyte⟩ := ih h
      have hoffset : stop - offset = stop - (offset + 1) + 1 := by omega
      rw [hoffset, List.getElem?_cons_succ]
      exact ⟨Nat.le_of_succ_le hle, hbyte⟩
    unfold closingFrom at h
    split_ifs at h with hquote hopen hclose
    · exact hlater h
    · exact hlater h
    · cases depth with
      | zero =>
        obtain rfl := Option.some.inj h
        obtain rfl := eq_of_beq (Bool.and_eq_true_iff.mp hclose).2
        rw [Nat.sub_self]
        exact ⟨le_rfl, rfl⟩
      | succ depth => exact hlater h
    · exact hlater h

/-- What the search finds is a closing brace, at its start or later. -/
theorem getElem?_of_closingBrace? {data : List UInt8} {start stop : ℕ}
    (h : closingBrace? data start = some stop) :
    start ≤ stop ∧ data[stop]? = some '}'.toUInt8 := by
  obtain ⟨hle, hbyte⟩ := getElem?_of_closingFrom h
  rw [List.getElem?_drop, Nat.add_sub_cancel' hle] at hbyte
  exact ⟨hle, hbyte⟩

/-- A brace that closes another one cuts the text behind that one. -/
theorem exists_inner_of_closingBrace? {before rest : List Char} {stop : ℕ}
    (h : closingBrace? (bytes (before ++ '{' :: rest)) (size before + 1) = some stop) :
    ∃ inner after, rest = inner ++ '}' :: after ∧ stop = size (before ++ '{' :: inner) := by
  obtain ⟨hle, hbyte⟩ := getElem?_of_closingBrace? h
  obtain ⟨front, after, hsplit, rfl⟩ := (getElem?_bytes_eq_some_iff (by decide)).mp hbyte
  -- The closing brace stands behind the open one, so the two cuts of the code do not cross.
  rcases List.append_eq_append_iff.mp hsplit with ⟨middle, rfl, hmiddle⟩ | ⟨middle, rfl, -⟩
  · cases middle with
    | nil => exact absurd (List.cons.inj hmiddle).1 (by decide)
    | cons c inner =>
      obtain ⟨rfl, hrest⟩ := List.cons.inj hmiddle
      exact ⟨inner, after, hrest, rfl⟩
  · rw [size_append] at hle
    omega

/-! ### Text in which braces match -/

/-- A text whose braces match: it is made of characters that mean nothing to the search, complete
literals, and such texts in braces. -/
inductive Nested : List Char → Prop
  | nil : Nested []
  | plain {c : Char} {rest : List Char} (hc : c ∉ levelMarks) (hrest : Nested rest) :
    Nested (c :: rest)
  | literal (quote : Char) {rest : List Char} (hquote : quote ∈ stringQuotes)
    (body : List (Piece [quote])) (hrest : Nested rest) :
    Nested (quote :: body.flatMap Piece.source ++ quote :: rest)
  | block {inner rest : List Char} (hinner : Nested inner) (hrest : Nested rest) :
    Nested ('{' :: inner ++ '}' :: rest)

/-- The search gets from one level to the other with the text, and does not end within it. -/
def Walks (text : List Char) (start stop : Level) : Prop :=
  ∀ offset rest, closing? start offset (text ++ rest) = closing? stop (offset + size text) rest

theorem walks_nil (level : Level) : Walks [] level level :=
  fun _ _ ↦ rfl

theorem Walks.append {front back : List Char} {start middle stop : Level}
    (hfront : Walks front start middle) (hback : Walks back middle stop) :
    Walks (front ++ back) start stop := by
  intro offset rest
  rw [List.append_assoc, hfront, hback, size_append, Nat.add_assoc]

/-- A character that does not close the brace leads to the next level. -/
theorem walks_singleton {level : Level} {c : Char} (h : ¬ level.IsClosed c) :
    Walks [c] level (level.next c) := by
  intro offset rest
  rw [List.singleton_append, closing?, if_neg h]
  rfl

theorem Walks.cons {c : Char} {text : List Char} {start stop : Level} (hc : ¬ start.IsClosed c)
    (h : Walks text (start.next c) stop) : Walks (c :: text) start stop :=
  (walks_singleton hc).append h

theorem Walks.flatMap {α : Type} {f : α → List Char} {level : Level}
    (h : ∀ a, Walks (f a) level level) (items : List α) : Walks (items.flatMap f) level level := by
  induction items with
  | nil => exact walks_nil level
  | cons a items ih =>
    rw [List.flatMap_cons]
    exact (h a).append ih

/-- No brace in a literal is the one that the search is for. -/
theorem Level.not_isClosed_within (quote : UInt8) (depth : ℕ) (escaped : Bool) (c : Char) :
    ¬ Level.IsClosed ⟨some quote, depth, escaped⟩ c :=
  fun h ↦ Option.some_ne_none quote h.1

/-- In a literal the search walks over what does not close it. -/
theorem walks_piece {quote : Char} (hquote : quote ∈ stringQuotes) (depth : ℕ)
    (piece : Piece [quote]) :
    Walks piece.source ⟨some quote.toUInt8, depth, false⟩ ⟨some quote.toUInt8, depth, false⟩ := by
  cases piece with
  | plain c hspecial hbackslash =>
    have hne : c ≠ quote := by simpa using hspecial
    have htoggle : c ∈ stringQuotes →
        toggle (some quote.toUInt8) c.toUInt8 = some quote.toUInt8 := by
      intro hc
      have hbyte : c.toUInt8 ≠ quote.toUInt8 := fun h ↦ hne
        ((toUInt8_eq_iff (toNat_lt_of_mem_stringQuotes hc)
          (toNat_lt_of_mem_stringQuotes hquote)).mp h)
      simp [toggle, hbyte]
    have hnext : Level.next ⟨some quote.toUInt8, depth, false⟩ c =
        ⟨some quote.toUInt8, depth, false⟩ := by
      simpa [Level.next, hbackslash] using htoggle
    have hwalk := walks_singleton (Level.not_isClosed_within quote.toUInt8 depth false c)
    rwa [hnext] at hwalk
  | escaped c =>
    have hbackslash : Level.next ⟨some quote.toUInt8, depth, false⟩ '\\' =
        ⟨some quote.toUInt8, depth, true⟩ := by
      simp [Level.next, stringQuotes]
    have hnext : Level.next ⟨some quote.toUInt8, depth, true⟩ c =
        ⟨some quote.toUInt8, depth, false⟩ := by
      simp [Level.next]
    have hwalk := walks_singleton (Level.not_isClosed_within quote.toUInt8 depth true c)
    refine .cons (Level.not_isClosed_within quote.toUInt8 depth false '\\') ?_
    rwa [hbackslash, ← hnext]

/-- A complete literal leaves the level as it is. -/
theorem walks_literal {quote : Char} (hquote : quote ∈ stringQuotes) (body : List (Piece [quote]))
    (depth : ℕ) :
    Walks (quote :: body.flatMap Piece.source ++ [quote]) ⟨none, depth, false⟩
      ⟨none, depth, false⟩ := by
  have hmarks : quote ≠ '{' ∧ quote ≠ '}' ∧ quote ≠ '\\' := by
    refine ⟨?_, ?_, ?_⟩ <;> rintro rfl <;> exact absurd hquote (by decide)
  have hopen : Level.next ⟨none, depth, false⟩ quote = ⟨some quote.toUInt8, depth, false⟩ := by
    simp [Level.next, toggle, hquote, hmarks]
  have hclose : Level.next ⟨some quote.toUInt8, depth, false⟩ quote = ⟨none, depth, false⟩ := by
    simp [Level.next, toggle, hquote, hmarks]
  have hlast := walks_singleton (Level.not_isClosed_within quote.toUInt8 depth false quote)
  rw [hclose] at hlast
  refine .cons (fun h ↦ hmarks.2.1 h.2.1) ?_
  rw [hopen]
  exact (Walks.flatMap (walks_piece hquote depth) body).append hlast

/-- A text whose braces match leaves the level as it is. -/
theorem Nested.walks {text : List Char} (h : Nested text) (depth : ℕ) :
    Walks text ⟨none, depth, false⟩ ⟨none, depth, false⟩ := by
  induction h generalizing depth with
  | nil => exact walks_nil _
  | plain hc _ ih =>
    refine .cons (Level.not_isClosed_of_notMem hc _) ?_
    rw [Level.next_of_notMem hc]
    exact ih depth
  | literal quote hquote body _ ih =>
    rw [List.append_cons]
    exact (walks_literal hquote body depth).append (ih depth)
  | @block inner rest _ _ ihinner ihrest =>
    have hopen : ¬ Level.IsClosed ⟨none, depth, false⟩ '{' :=
      fun h ↦ absurd h.2.1 (by decide)
    have hclose : ¬ Level.IsClosed ⟨none, depth + 1, false⟩ '}' :=
      fun h ↦ Nat.succ_ne_zero depth h.2.2
    exact .cons hopen ((ihinner (depth + 1)).append (.cons hclose (ihrest depth)))

/-- The search finds the brace behind a text whose braces match, whatever stands before and after:
from the first byte of the text on, it is as many bytes away as the text has. -/
theorem closingBrace?_nested {inner : List Char} (h : Nested inner) (before after : List Char) :
    closingBrace? (bytes (before ++ '{' :: inner ++ '}' :: after)) (size before + 1) =
      some (size before + 1 + size inner) := by
  have hbytes : bytes (before ++ '{' :: inner ++ '}' :: after) =
      (bytes before ++ ['{'.toUInt8]) ++ bytes (inner ++ '}' :: after) := by
    have hopen : String.utf8EncodeChar '{' = ['{'.toUInt8] := by decide
    simp [hopen]
  have hlength : (bytes before ++ ['{'.toUInt8]).length = size before + 1 := by
    rw [List.length_append, length_bytes, List.length_singleton]
  have hescaped : escapedAfter (bytes before ++ ['{'.toUInt8]).reverse = false := by
    rw [List.reverse_append, List.reverse_singleton, List.singleton_append, escapedAfter_cons]
    rfl
  rw [closingBrace?, hbytes, List.take_left' hlength, List.drop_left' hlength,
    closingFrom_bytes ⟨none, 0, false⟩ hescaped, h.walks 0]
  rfl

/-- A literal with an escaped quote, a brace and the other quote in it, a pair of braces right
behind, and a literal that ends in two backslashes; before the braces a quote and a backslash, and
after them an open brace. -/
theorem closingBrace?_nested_mixed :
    let inner := "a\x7b\"\\\"\x7d'\"\x7b\x7d\x7dé'\\\\'".toList
    Nested inner ∧
      closingBrace? (bytes ("'\\\x7b".toList ++ inner ++ "\x7d\x7b".toList)) 3 = some 20 := by
  intro inner
  have hinner : Nested inner := by
    have hblock : Nested "\"\\\"\x7d'\"\x7b\x7d".toList :=
      .literal '"' (by decide)
        [.escaped '"', .plain '}' (by decide) (by decide), .plain '\'' (by decide) (by decide)]
        (.block .nil .nil)
    have hlast : Nested "'\\\\'".toList :=
      .literal '\'' (by decide) [.escaped '\\'] .nil
    exact .plain (by decide) (.block hblock (.plain (by decide) hlast))
  exact ⟨hinner, closingBrace?_nested hinner "'\\".toList "\x7b".toList⟩

end PluginRecovery.Script
