import Mathlib
import PluginRecovery.Proofs.Text.Ascii
import PluginRecovery.Script.Comments

/-!
The removal of comments, read character by character. The scan looks at bytes, and all that it looks
for is ASCII, so it keeps or leaves out every character as a whole. There is one exception: a block
comment without an end leaves the last byte of the text, and that byte may be the end of a longer
character. What the scan writes (`Place.strip`) has an equation for each kind of character in each
place, and `decode_strip` reads it as what `kept` leaves, which is the same scan of characters, with
U+FFFD for such a byte. So that is what is left without comments (`stripComments_eq_kept`).
-/

set_option autoImplicit false
set_option relaxedAutoImplicit false

namespace PluginRecovery.Script

open PluginRecovery.Text

/-- At the end of the text the scan is done. -/
theorem stripFrom_nil (mode : Mode) (written : List UInt8) :
    stripFrom mode written [] = written.reverse := by
  cases mode <;> rw [stripFrom]

/-! ### The scan of characters -/

def quotes : List Char :=
  ['"', '\'', '`']

theorem toNat_lt_of_mem_quotes {c : Char} (h : c ∈ quotes) : c.toNat < 0x80 := by
  simp only [quotes, List.mem_cons, List.not_mem_nil, or_false] at h
  rcases h with rfl | rfl | rfl <;> decide

def asciiBlanks : List Char :=
  [' ', '\t', '\n', '\x0c', '\r']

/-- The characters after which a slash begins a regular expression. -/
def expressionOpeners : List Char :=
  ['(', '[', '{', '=', ':', ';', ',', '!', '&', '|', '^', '~', '?']

/-- A slash that follows the text begins a regular expression: up to white space at its end, the
text is empty, or ends in one of `expressionOpeners`, or ends in `return`. -/
def RegexMayFollow (before : List Char) : Prop :=
  let written := before.rdropWhile fun c ↦ asciiBlanks.contains c
  written = [] ∨ written.getLast?.any (fun c ↦ expressionOpeners.contains c) ∨
    "return".toList <:+ written

instance : DecidablePred RegexMayFollow :=
  fun _ ↦ inferInstanceAs (Decidable (_ ∨ _ ∨ _))

/-- What copies a text up to its own end: a literal with its quote, or a regular expression, where a
class takes a slash as any other character. -/
inductive Enclosure where
  | literal (quote : Char)
  | regex (inClass : Bool)

/-- What the scan is inside of. In an enclosure, `escaped` says that a backslash takes the next
character away from it. -/
inductive Place where
  | code
  | inside (enclosure : Enclosure) (escaped : Bool)
  | lineComment
  | blockComment

/-- The place after a character of code that begins no comment. -/
def Place.afterCode (before : List Char) (c : Char) : Place :=
  if c ∈ quotes then .inside (.literal c) false
  else if c = '/' ∧ RegexMayFollow before then .inside (.regex false) false
  else .code

/-- A slash in code opens a regex where one may follow, and divides elsewhere. -/
theorem Place.afterCode_slash (before : List Char) :
    Place.afterCode before '/' =
      if RegexMayFollow before then .inside (.regex false) false else .code := by
  have hquote : '/' ∉ quotes := by decide
  simp [Place.afterCode, hquote]

/-- The place after a character that a backslash does not precede. -/
def Enclosure.afterPlain : Enclosure → Char → Place
  | .literal quote, c => if c = quote then .code else .inside (.literal quote) false
  | .regex inClass, c =>
    if c = '[' then .inside (.regex true) false
    else if c = ']' then .inside (.regex false) false
    else if c = '/' ∧ inClass = false then .code
    else .inside (.regex inClass) false

/-- The place after a character inside an enclosure. -/
def Enclosure.after (enclosure : Enclosure) (escaped : Bool) (c : Char) : Place :=
  if escaped then .inside enclosure false
  else if c = '\\' then .inside enclosure true
  else enclosure.afterPlain c

/-- What the last byte of a character is read as without the bytes before it. -/
def lastByteRead (c : Char) : Char :=
  if c.toNat < 0x80 then c else replacement

/-- What is left of a text that begins in a place, where `before` is left of the text up to
there. -/
def kept : Place → List Char → List Char → List Char
  | _, _, [] => []
  | .code, before, '/' :: '/' :: rest => kept .lineComment before rest
  | .code, before, '/' :: '*' :: rest => kept .blockComment before rest
  | .code, before, c :: rest => c :: kept (Place.afterCode before c) (before ++ [c]) rest
  | .inside enclosure escaped, before, c :: rest =>
    c :: kept (enclosure.after escaped c) (before ++ [c]) rest
  | .lineComment, before, c :: rest =>
    if c = '\n' then c :: kept .code (before ++ [c]) rest else kept .lineComment before rest
  | .blockComment, _, [c] => [lastByteRead c]
  | .blockComment, before, '*' :: '/' :: rest => kept .code before rest
  | .blockComment, before, c :: rest =>
    if c = '\n' then c :: kept .blockComment (before ++ [c]) rest
    else kept .blockComment before rest

@[simp] theorem kept_nil (place : Place) (before : List Char) : kept place before [] = [] := by
  cases place <;> rw [kept]

/-- Everything inside a literal or a regex is kept. -/
@[simp] theorem kept_inside_cons (enclosure : Enclosure) (escaped : Bool)
    (before : List Char) (c : Char) (rest : List Char) :
    kept (.inside enclosure escaped) before (c :: rest) =
      c :: kept (enclosure.after escaped c) (before ++ [c]) rest := by
  rw [kept]

/-- What a scan of code leaves when the text begins no comment. -/
theorem kept_code_cons {before rest : List Char} {c : Char}
    (h : c = '/' → rest.head? ≠ some '/' ∧ rest.head? ≠ some '*') :
    kept .code before (c :: rest) = c :: kept (Place.afterCode before c) (before ++ [c]) rest := by
  rw [kept]
  · rintro tail rfl rfl
    exact (h rfl).1 rfl
  · rintro tail rfl rfl
    exact (h rfl).2 rfl

/-! ### The context of a slash -/

theorem isQuote_iff (b : UInt8) : isQuote b = true ↔ b ∈ bytes quotes := by
  have hbytes : bytes quotes = ['"'.toUInt8, '\''.toUInt8, 0x60] := by decide
  simp [isQuote, hbytes, or_assoc]

theorem isAsciiBlank_iff (b : UInt8) : isAsciiBlank b = true ↔ b ∈ bytes asciiBlanks := by
  have hbytes : bytes asciiBlanks = [0x20, 0x09, 0x0A, 0x0C, 0x0D] := by decide
  simp [isAsciiBlank, hbytes, or_assoc]

/-- The bytes of a text that is written backwards, backwards too. -/
def backBytes (back : List Char) : List UInt8 :=
  back.flatMap fun c ↦ (String.utf8EncodeChar c).reverse

@[simp] theorem backBytes_cons (c : Char) (back : List Char) :
    backBytes (c :: back) = (String.utf8EncodeChar c).reverse ++ backBytes back :=
  rfl

/-- The bytes written so far, newest first, are the characters so far, newest first, each with its
bytes in reverse. -/
theorem reverse_bytes (text : List Char) : (bytes text).reverse = backBytes text.reverse := by
  simp [bytes, backBytes, List.reverse_flatMap, Function.comp_def]

/-- Looking back over bytes that are all of a set of ASCII characters is looking back over the
characters of the set. -/
theorem dropWhile_backBytes {members : List Char} {p : UInt8 → Bool}
    (hmembers : ∀ d ∈ members, d.toNat < 0x80) (hp : ∀ b, p b = true ↔ b ∈ bytes members)
    (back : List Char) :
    (backBytes back).dropWhile p = backBytes (back.dropWhile fun c ↦ members.contains c) := by
  induction back with
  | nil => rfl
  | cons c back ih =>
    obtain ⟨last, front, hbytes, halike⟩ := exists_reverse_utf8EncodeChar c
    have hlast : p last = true ↔ c ∈ members := (hp last).trans (halike.mem_iff hmembers)
    by_cases hmem : c ∈ members
    · have hone : (String.utf8EncodeChar c).reverse = [c.toUInt8] := by
        rw [utf8EncodeChar_of_lt (hmembers c hmem)]
        rfl
      have hc : p c.toUInt8 = true := by
        rw [hone] at hbytes
        rw [(List.cons.inj hbytes).1]
        exact hlast.mpr hmem
      simp [hone, hc, hmem, ih]
    · have hc : p last = false := Bool.eq_false_iff.mpr fun h ↦ hmem (hlast.mp h)
      simp [hbytes, hc, hmem]

/-- The bytes end in an ASCII word exactly if the characters do; the word and the text are both
given newest first. -/
theorem map_toUInt8_isPrefix_backBytes {word : List Char} (hword : ∀ d ∈ word, d.toNat < 0x80)
    (back : List Char) : word.map Char.toUInt8 <+: backBytes back ↔ word <+: back := by
  induction word generalizing back with
  | nil => simp
  | cons d word ih =>
    have hd := hword d List.mem_cons_self
    cases back with
    | nil => simp [backBytes]
    | cons c back =>
      have ih := ih (fun e he ↦ hword e (List.mem_cons_of_mem d he)) back
      rw [backBytes_cons, List.map_cons, List.cons_prefix_cons, ← ih]
      by_cases heq : d = c
      · subst d
        rw [utf8EncodeChar_of_lt hd]
        simp
      · obtain ⟨last, front, hbytes, halike⟩ := exists_reverse_utf8EncodeChar c
        have hlast : d.toUInt8 ≠ last := fun h ↦ heq ((halike.eq_iff hd).mp h.symm).symm
        rw [hbytes, List.cons_append, List.cons_prefix_cons]
        simp [heq, hlast]

/-- The scan finds the context of a slash in the bytes. -/
theorem inRegexContext_reverse_bytes (before : List Char) :
    inRegexContext (bytes before).reverse = decide (RegexMayFollow before) := by
  have hblanks : ∀ d ∈ asciiBlanks, d.toNat < 0x80 := by simp [asciiBlanks]
  have hopeners : ∀ d ∈ expressionOpeners, d.toNat < 0x80 := by simp [expressionOpeners]
  have hreturn : (bytes "return".toList).reverse = "return".toList.reverse.map Char.toUInt8 := by
    decide
  rw [inRegexContext, reverse_bytes, dropWhile_backBytes hblanks isAsciiBlank_iff,
    Bool.eq_iff_iff, decide_eq_true_iff]
  simp only [RegexMayFollow, List.rdropWhile]
  generalize before.reverse.dropWhile (fun c ↦ asciiBlanks.contains c) = back
  have hword := @map_toUInt8_isPrefix_backBytes "return".toList.reverse (by simp) back
  rw [← List.reverse_prefix, List.reverse_reverse, ← hword, ← hreturn, List.getLast?_reverse]
  cases back with
  | nil => simp [backBytes]
  | cons c back =>
    obtain ⟨last, front, hbytes, halike⟩ := exists_reverse_utf8EncodeChar c
    have hopener : last ∈ regexPreceders ↔ c ∈ expressionOpeners := halike.mem_iff hopeners
    rw [backBytes_cons, hbytes, List.cons_append]
    simp only [Bool.or_eq_true, List.contains_iff_mem, List.isPrefixOf_iff_prefix, hopener]
    simp

/-! ### The scan of bytes, a character at a time -/

/-- The mode of the scan of bytes in an enclosure. -/
def Enclosure.mode : Enclosure → Mode
  | .literal quote => .quoted quote.toUInt8
  | .regex inClass => .regex inClass

/-- The scan of bytes, taken up in a place, with what is written so far newest first. A backslash
that is already written is read once more, together with what it escapes. -/
def Place.resume : Place → List UInt8 → List UInt8 → List UInt8
  | .code, written, data => stripFrom .code written data
  | .inside enclosure false, written, data => stripFrom enclosure.mode written data
  | .inside enclosure true, written, data =>
    stripFrom enclosure.mode written.tail (written.head?.toList ++ data)
  | .lineComment, written, data => stripFrom .lineComment written data
  | .blockComment, written, data => stripFrom .blockComment written data

/-- The quote of a literal is ASCII. -/
def Enclosure.IsAscii : Enclosure → Prop
  | .literal quote => quote.toNat < 0x80
  | .regex _ => True

/-- A place that copies the next character and does not escape it. -/
def Place.IsOpen : Place → Prop
  | .code => True
  | .inside enclosure escaped => enclosure.IsAscii ∧ escaped = false
  | _ => False

/-- Inside an enclosure the quote is ASCII, and what escapes is a backslash. -/
def Place.Follows : Place → List Char → Prop
  | .inside enclosure escaped, before =>
    enclosure.IsAscii ∧ (escaped = true → ∃ front, before = front ++ ['\\'])
  | _, _ => True

theorem Enclosure.isOpen_afterPlain {enclosure : Enclosure} (h : enclosure.IsAscii) (c : Char) :
    (enclosure.afterPlain c).IsOpen := by
  cases enclosure with
  | literal quote =>
    simp only [afterPlain]
    split_ifs
    · trivial
    · exact ⟨h, rfl⟩
  | regex inClass =>
    simp only [afterPlain]
    split_ifs <;> trivial

theorem resume_code_cons {b : UInt8} {c : Char} (h : AsciiAlike b c) (hslash : c ≠ '/')
    (written data : List UInt8) :
    Place.code.resume written (b :: data) =
      (if c ∈ quotes then Place.inside (.literal c) false else .code).resume
        (b :: written) data := by
  have hquote : isQuote b = decide (c ∈ quotes) := by
    rw [Bool.eq_iff_iff, isQuote_iff, decide_eq_true_iff]
    exact h.mem_iff fun _ ↦ toNat_lt_of_mem_quotes
  have hnot : (b == '/'.toUInt8) = false := by
    rw [h.beq_eq (by decide)]
    simpa using hslash
  by_cases hc : c ∈ quotes
  · have hb : b = c.toUInt8 := (h.eq_iff (toNat_lt_of_mem_quotes hc)).mpr rfl
    cases data <;> simp [Place.resume, stripFrom, Enclosure.mode, hquote, hc, ← hb]
  · cases data <;> simp [Place.resume, stripFrom, hquote, hnot, hc]

theorem resume_inside_cons {b : UInt8} {c : Char} (h : AsciiAlike b c) (hbackslash : c ≠ '\\')
    {enclosure : Enclosure} (hascii : enclosure.IsAscii) (written data : List UInt8) :
    (Place.inside enclosure false).resume written (b :: data) =
      (enclosure.afterPlain c).resume (b :: written) data := by
  have hnot : isBackslash b = false := by
    rw [isBackslash, h.beq_eq (by decide)]
    simpa using hbackslash
  cases enclosure with
  | literal quote =>
    have hquote := h.beq_eq hascii
    by_cases hc : c = quote <;> cases data <;>
      simp [Place.resume, Enclosure.mode, Enclosure.afterPlain, stripFrom, hnot, hquote, hc]
  | regex inClass =>
    have hopen : (b == '['.toUInt8) = decide (c = '[') := h.beq_eq (by decide)
    have hclose : (b == ']'.toUInt8) = decide (c = ']') := h.beq_eq (by decide)
    have hend : (b == '/'.toUInt8) = decide (c = '/') := h.beq_eq (by decide)
    simp only [Enclosure.afterPlain]
    split_ifs with hc hc hc <;> cases data <;>
      simp_all [Place.resume, Enclosure.mode, stripFrom]

/-- Bytes that are not ASCII are copied where characters are. -/
theorem resume_append_of_le {place : Place} (hplace : place.IsOpen) {high : List UInt8}
    (hhigh : ∀ b ∈ high, 0x80 ≤ b) (written data : List UInt8) :
    place.resume written (high ++ data) = place.resume (high.reverse ++ written) data := by
  induction high generalizing written with
  | nil => rfl
  | cons b high ih =>
    have halike := asciiAlike_replacement (hhigh b List.mem_cons_self)
    have hrest := ih (fun d hd ↦ hhigh d (List.mem_cons_of_mem b hd)) (b :: written)
    have hstep : place.resume written (b :: (high ++ data)) =
        place.resume (b :: written) (high ++ data) := by
      cases place with
      | code => exact resume_code_cons halike (by decide) written (high ++ data)
      | inside enclosure escaped =>
        obtain ⟨hascii, rfl⟩ := hplace
        rw [resume_inside_cons halike (by decide) hascii]
        congr
        cases enclosure with
        | literal quote =>
          have hne : replacement ≠ quote := by
            rintro rfl
            exact absurd hascii (by decide : ¬ replacement.toNat < 0x80)
          exact if_neg hne
        | regex inClass => rfl
      | lineComment => exact hplace.elim
      | blockComment => exact hplace.elim
    rw [List.cons_append, hstep, hrest]
    simp

theorem Place.isOpen_afterCode (before : List Char) (c : Char) :
    (Place.afterCode before c).IsOpen := by
  unfold Place.afterCode
  split_ifs with hquote hslash
  · exact ⟨toNat_lt_of_mem_quotes hquote, rfl⟩
  · exact ⟨trivial, rfl⟩
  · trivial

/-- A character of code that begins no comment and is no slash. -/
theorem resume_code_utf8EncodeChar {c : Char} (hslash : c ≠ '/') (before : List Char)
    (data : List UInt8) :
    Place.code.resume (bytes before).reverse (String.utf8EncodeChar c ++ data) =
      (Place.afterCode before c).resume (bytes (before ++ [c])).reverse data := by
  obtain ⟨first, tail, hbytes, halike, htail⟩ := exists_utf8EncodeChar_eq_cons c
  have hplace : Place.afterCode before c =
      if c ∈ quotes then Place.inside (.literal c) false else .code := by
    simp [Place.afterCode, hslash]
  rw [hbytes, List.cons_append, resume_code_cons halike hslash, ← hplace,
    resume_append_of_le (Place.isOpen_afterCode before c) htail]
  simp [hbytes]

/-- A slash in code that begins no comment. -/
theorem resume_code_slash (before : List Char) {rest : List Char}
    (hrest : rest.head? ≠ some '/' ∧ rest.head? ≠ some '*') :
    Place.code.resume (bytes before).reverse (bytes ('/' :: rest)) =
      (Place.afterCode before '/').resume (bytes (before ++ ['/'])).reverse (bytes rest) := by
  have hslash : String.utf8EncodeChar '/' = ['/'.toUInt8] := by decide
  have hquote : isQuote '/'.toUInt8 = false := by decide
  cases rest with
  | nil =>
    by_cases hregex : RegexMayFollow before <;>
      simp [Place.afterCode_slash, Place.resume, hregex, hslash, hquote, stripFrom]
  | cons next rest =>
    obtain ⟨first, tail, hbytes, halike, -⟩ := exists_utf8EncodeChar_eq_cons next
    have hline : (first == '/'.toUInt8) = false := by
      rw [halike.beq_eq (by decide)]
      simpa using hrest.1
    have hblock : (first == '*'.toUInt8) = false := by
      rw [halike.beq_eq (by decide)]
      simpa using hrest.2
    have hcontext := inRegexContext_reverse_bytes before
    by_cases hregex : RegexMayFollow before <;>
      simp_all [Place.afterCode_slash, Place.resume, Enclosure.mode, stripFrom]

/-- A character inside an enclosure. -/
theorem resume_inside_utf8EncodeChar {enclosure : Enclosure} {escaped : Bool} {before : List Char}
    (h : (Place.inside enclosure escaped).Follows before) (c : Char) (data : List UInt8) :
    (Place.inside enclosure escaped).resume (bytes before).reverse
        (String.utf8EncodeChar c ++ data) =
      (enclosure.after escaped c).resume (bytes (before ++ [c])).reverse data := by
  obtain ⟨hascii, hescaped⟩ := h
  cases escaped with
  | true =>
    obtain ⟨front, rfl⟩ := hescaped rfl
    obtain ⟨first, tail, hbytes, -, htail⟩ := exists_utf8EncodeChar_eq_cons c
    have hback : isBackslash '\\'.toUInt8 = true := by decide
    have hbackslash : String.utf8EncodeChar '\\' = ['\\'.toUInt8] := by decide
    have hskip (written rest : List UInt8) :
        stripFrom enclosure.mode written ('\\'.toUInt8 :: first :: rest) =
          stripFrom enclosure.mode (first :: '\\'.toUInt8 :: written) rest := by
      cases enclosure <;> simp [Enclosure.mode, stripFrom, hback]
    have hopen : (Place.inside enclosure false).IsOpen := ⟨hascii, rfl⟩
    have hcopy := resume_append_of_le hopen htail
      (first :: '\\'.toUInt8 :: (bytes front).reverse) data
    simp only [Place.resume] at hcopy
    simp [Place.resume, Enclosure.after, hbackslash, hbytes, hskip, hcopy]
  | false =>
    by_cases hc : c = '\\'
    · subst c
      have hbackslash : String.utf8EncodeChar '\\' = ['\\'.toUInt8] := by decide
      simp [Place.resume, Enclosure.after, hbackslash]
    · obtain ⟨first, tail, hbytes, halike, htail⟩ := exists_utf8EncodeChar_eq_cons c
      rw [hbytes, List.cons_append, resume_inside_cons halike hc hascii,
        resume_append_of_le (Enclosure.isOpen_afterPlain hascii c) htail]
      simp [Enclosure.after, hc, hbytes]

/-- A line comment leaves out what is no newline. -/
theorem stripFrom_lineComment_append {dropped : List UInt8} (h : '\n'.toUInt8 ∉ dropped)
    (written data : List UInt8) :
    stripFrom .lineComment written (dropped ++ data) = stripFrom .lineComment written data := by
  induction dropped with
  | nil => rfl
  | cons b dropped ih =>
    obtain ⟨hb, hdropped⟩ : '\n'.toUInt8 ≠ b ∧ '\n'.toUInt8 ∉ dropped := by simpa using h
    have hnewline : (b == '\n'.toUInt8) = false := by simpa using Ne.symm hb
    rw [List.cons_append, stripFrom, hnewline]
    simpa using ih hdropped

/-- A block comment leaves out what is no newline and does not close it. -/
theorem stripFrom_blockComment_cons {b next : UInt8} (hnewline : b ≠ '\n'.toUInt8)
    (hclose : ¬ (b = '*'.toUInt8 ∧ next = '/'.toUInt8)) (written data : List UInt8) :
    stripFrom .blockComment written (b :: next :: data) =
      stripFrom .blockComment written (next :: data) := by
  have hnot : (b == '*'.toUInt8 && next == '/'.toUInt8) = false := by
    rw [Bool.eq_false_iff]
    simpa using hclose
  have hline : (b == '\n'.toUInt8) = false := by simpa using hnewline
  simp [stripFrom, hnot, hline]

/-- The bytes of a character that is not ASCII leave nothing in a block comment that goes on behind
them. -/
theorem stripFrom_blockComment_append {high : List UInt8} (hhigh : ∀ b ∈ high, 0x80 ≤ b)
    {data : List UInt8} (hdata : data ≠ []) (written : List UInt8) :
    stripFrom .blockComment written (high ++ data) = stripFrom .blockComment written data := by
  induction high with
  | nil => rfl
  | cons b high ih =>
    have halike := asciiAlike_replacement (hhigh b List.mem_cons_self)
    have hnewline : b ≠ '\n'.toUInt8 := by
      rw [Ne, halike.eq_iff (by decide)]
      decide
    have hstar : b ≠ '*'.toUInt8 := by
      rw [Ne, halike.eq_iff (by decide)]
      decide
    obtain ⟨next, rest, hrest⟩ : ∃ next rest, high ++ data = next :: rest :=
      List.exists_cons_of_ne_nil (List.append_ne_nil_of_right_ne_nil high hdata)
    rw [List.cons_append, hrest, stripFrom_blockComment_cons hnewline (fun h ↦ hstar h.1), ← hrest]
    exact ih fun d hd ↦ hhigh d (List.mem_cons_of_mem b hd)

/-- A character that does not end in the text leaves nothing in a block comment. -/
theorem resume_blockComment_utf8EncodeChar {c : Char} {rest : List Char} (hnewline : c ≠ '\n')
    (hrest : rest ≠ []) (hclose : ∀ tail, c = '*' → rest = '/' :: tail → False)
    (written : List UInt8) :
    Place.blockComment.resume written (bytes (c :: rest)) =
      Place.blockComment.resume written (bytes rest) := by
  obtain ⟨next, rest, rfl⟩ := List.exists_cons_of_ne_nil hrest
  obtain ⟨first, tail, hbytes, halike, htail⟩ := exists_utf8EncodeChar_eq_cons c
  obtain ⟨second, others, hnext, hsecond, -⟩ := exists_utf8EncodeChar_eq_cons next
  have hfirst : first ≠ '\n'.toUInt8 := by
    rw [Ne, halike.eq_iff (by decide)]
    exact hnewline
  have hdata : bytes (next :: rest) ≠ [] := by simp [hnext]
  by_cases hstar : c = '*'
  · subst c
    have hslash : second ≠ '/'.toUInt8 := by
      rw [Ne, hsecond.eq_iff (by decide)]
      rintro rfl
      exact hclose rest rfl rfl
    have hone : String.utf8EncodeChar '*' = ['*'.toUInt8] := by decide
    simp only [bytes_cons, hone, hnext, Place.resume, List.cons_append, List.nil_append]
    exact stripFrom_blockComment_cons (by decide) (fun h ↦ hslash h.2) _ _
  · have hfirstStar : first ≠ '*'.toUInt8 := by
      rw [Ne, halike.eq_iff (by decide)]
      exact hstar
    obtain ⟨head, others, hhead⟩ : ∃ head others, tail ++ bytes (next :: rest) = head :: others :=
      List.exists_cons_of_ne_nil (List.append_ne_nil_of_right_ne_nil tail hdata)
    rw [bytes_cons c, hbytes, List.cons_append, hhead]
    simp only [Place.resume]
    rw [stripFrom_blockComment_cons hfirst (fun h ↦ hfirstStar h.1), ← hhead]
    exact stripFrom_blockComment_append htail hdata written

/-! ### What is written in all -/

/-- What the scan of bytes has written at the end of a text that it comes to in a place, with
`before` written up to there. -/
def Place.strip (place : Place) (before rest : List Char) : List UInt8 :=
  place.resume (bytes before).reverse (bytes rest)

theorem Place.IsOpen.follows {place : Place} (h : place.IsOpen) (before : List Char) :
    place.Follows before := by
  cases place with
  | inside enclosure escaped =>
    obtain ⟨hascii, rfl⟩ := h
    exact ⟨hascii, fun hescaped ↦ Bool.noConfusion hescaped⟩
  | _ => trivial

theorem Enclosure.follows_after {enclosure : Enclosure} (h : enclosure.IsAscii) (escaped : Bool)
    (before : List Char) (c : Char) : (enclosure.after escaped c).Follows (before ++ [c]) := by
  unfold Enclosure.after
  split_ifs with hescaped hbackslash
  · exact ⟨h, by simp⟩
  · exact ⟨h, fun _ ↦ ⟨before, by rw [hbackslash]⟩⟩
  · exact (isOpen_afterPlain h c).follows _

/-- At the end of the text the scan has written what is left. -/
theorem strip_nil {place : Place} {before : List Char} (h : place.Follows before) :
    place.strip before [] = bytes before := by
  unfold Place.strip
  cases place with
  | inside enclosure escaped =>
    cases escaped with
    | false => simp [Place.resume, stripFrom_nil]
    | true =>
      obtain ⟨front, rfl⟩ := h.2 rfl
      have hone : String.utf8EncodeChar '\\' = ['\\'.toUInt8] := by decide
      have hback : isBackslash '\\'.toUInt8 = true := by decide
      cases enclosure <;> simp [Place.resume, Enclosure.mode, stripFrom, hone, hback]
  | _ => simp [Place.resume, stripFrom_nil]

theorem strip_code_cons {before rest : List Char} {c : Char}
    (h : c = '/' → rest.head? ≠ some '/' ∧ rest.head? ≠ some '*') :
    Place.code.strip before (c :: rest) =
      (Place.afterCode before c).strip (before ++ [c]) rest := by
  by_cases hc : c = '/'
  · subst c
    exact resume_code_slash before (h rfl)
  · exact resume_code_utf8EncodeChar hc before (bytes rest)

/-- Inside a literal or a regex the scan copies the character and gets to the place after it. -/
theorem strip_inside_cons {enclosure : Enclosure} {escaped : Bool} {before : List Char}
    (h : (Place.inside enclosure escaped).Follows before) (c : Char) (rest : List Char) :
    (Place.inside enclosure escaped).strip before (c :: rest) =
      (enclosure.after escaped c).strip (before ++ [c]) rest :=
  resume_inside_utf8EncodeChar h c (bytes rest)

/-- Two slashes in code open a line comment. -/
theorem strip_code_line (before rest : List Char) :
    Place.code.strip before ('/' :: '/' :: rest) = Place.lineComment.strip before rest :=
  rfl

/-- A slash and a star in code open a block comment. -/
theorem strip_code_block (before rest : List Char) :
    Place.code.strip before ('/' :: '*' :: rest) = Place.blockComment.strip before rest :=
  rfl

/-- A newline ends a line comment and is itself copied. -/
theorem strip_lineComment_newline (before rest : List Char) :
    Place.lineComment.strip before ('\n' :: rest) =
      Place.code.strip (before ++ ['\n']) rest := by
  have hnewline : String.utf8EncodeChar '\n' = ['\n'.toUInt8] := by decide
  simp [Place.strip, Place.resume, stripFrom, hnewline]

/-- Everything else in a line comment is left out. -/
theorem strip_lineComment_cons {c : Char} (hc : c ≠ '\n') (before rest : List Char) :
    Place.lineComment.strip before (c :: rest) = Place.lineComment.strip before rest := by
  have hbytes : '\n'.toUInt8 ∉ String.utf8EncodeChar c := by
    rw [toUInt8_mem_utf8EncodeChar_iff (by decide)]
    exact hc
  exact stripFrom_lineComment_append hbytes _ _

/-- A character that closes no block comment together with the next one does not bring what closes
one. -/
theorem isInfix_close_cons_iff {c : Char} {rest : List Char}
    (hclose : c = '*' → rest.head? ≠ some '/') :
    ['*', '/'] <:+: c :: rest ↔ ['*', '/'] <:+: rest := by
  rw [List.infix_cons_iff]
  refine or_iff_right fun hfront ↦ ?_
  obtain ⟨rfl, hrest⟩ := List.cons_prefix_cons.mp hfront
  obtain ⟨after, rfl⟩ := hrest
  exact hclose rfl rfl

/-- A star and a slash end a block comment, and neither is copied. -/
theorem strip_blockComment_close (before rest : List Char) :
    Place.blockComment.strip before ('*' :: '/' :: rest) = Place.code.strip before rest :=
  rfl

/-- A newline in a block comment is copied, unless the text ends with it. -/
theorem strip_blockComment_newline {rest : List Char} (hrest : rest ≠ []) (before : List Char) :
    Place.blockComment.strip before ('\n' :: rest) =
      Place.blockComment.strip (before ++ ['\n']) rest := by
  obtain ⟨next, rest, rfl⟩ := List.exists_cons_of_ne_nil hrest
  obtain ⟨first, tail, hbytes, -, -⟩ := exists_utf8EncodeChar_eq_cons next
  have hnewline : String.utf8EncodeChar '\n' = ['\n'.toUInt8] := by decide
  have hstar : '\n'.toUInt8 ≠ '*'.toUInt8 := by decide
  simp [Place.strip, Place.resume, stripFrom, hnewline, hbytes, hstar]

/-- Everything else in a block comment is left out, as long as something follows. -/
theorem strip_blockComment_cons {c : Char} {rest : List Char} (hnewline : c ≠ '\n')
    (hrest : rest ≠ []) (hclose : ∀ tail, c = '*' → rest = '/' :: tail → False)
    (before : List Char) :
    Place.blockComment.strip before (c :: rest) = Place.blockComment.strip before rest :=
  resume_blockComment_utf8EncodeChar hnewline hrest hclose _

def lastByte (c : Char) : UInt8 :=
  if c.toNat < 0x80 then c.toUInt8 else tailByte c.toNat

/-- The last character of a text inside a block comment leaves its last byte. -/
theorem strip_blockComment_singleton (before : List Char) (c : Char) :
    Place.blockComment.strip before [c] = bytes before ++ [lastByte c] := by
  by_cases hc : c.toNat < 0x80
  · have hone : String.utf8EncodeChar c = [c.toUInt8] := utf8EncodeChar_of_lt hc
    simp [Place.strip, Place.resume, stripFrom, hone, lastByte, hc]
  · have hle : 0x80 ≤ c.toNat := Nat.not_lt.mp hc
    obtain ⟨front, -, hfront⟩ := exists_utf8EncodeChar_eq_append hle
    have hhigh : ∀ b ∈ front, 0x80 ≤ b := by
      intro b hb
      refine le_of_mem_utf8EncodeChar hle ?_
      rw [hfront]
      exact List.mem_append_left _ hb
    have hskip := stripFrom_blockComment_append hhigh (List.cons_ne_nil (tailByte c.toNat) [])
      (bytes before).reverse
    simp [Place.strip, Place.resume, hfront, hskip, stripFrom, lastByte, hc]

/-- A character of which only the last byte is left is read back as `lastByteRead` says, and what
stands before it is read back as it was. -/
theorem decode_bytes_append_lastByte (before : List Char) (c : Char) :
    decode (bytes before ++ [lastByte c]) = before ++ [lastByteRead c] := by
  rw [lastByte, lastByteRead]
  split_ifs with hc
  · have hdecode := decode_bytes (before ++ [c])
    rwa [bytes_append, bytes_cons, bytes_nil, List.append_nil, utf8EncodeChar_of_lt hc] at hdecode
  · exact decode_bytes_append_tail before c.toNat

/-! ### The two scans agree -/

/-- The scan of bytes leaves the bytes of what the scan of characters leaves. -/
theorem decode_strip (place : Place) (before rest : List Char) (h : place.Follows before) :
    decode (place.strip before rest) = before ++ kept place before rest := by
  fun_induction kept place before rest with
  | case1 place before => rw [strip_nil h, decode_bytes, List.append_nil]
  | case2 before rest ih => rw [strip_code_line, ih trivial]
  | case3 before rest ih => rw [strip_code_block, ih trivial]
  | case4 before c rest hline hblock ih =>
    have hnone : c = '/' → rest.head? ≠ some '/' ∧ rest.head? ≠ some '*' := fun hc ↦
      ⟨fun hnext ↦ hline _ hc (List.eq_cons_of_mem_head? hnext),
        fun hnext ↦ hblock _ hc (List.eq_cons_of_mem_head? hnext)⟩
    rw [strip_code_cons hnone, ih ((Place.isOpen_afterCode before c).follows _),
      List.append_assoc]
    rfl
  | case5 enclosure escaped before c rest ih =>
    rw [strip_inside_cons h, ih (Enclosure.follows_after h.1 escaped before c),
      List.append_assoc]
    rfl
  | case6 before rest ih =>
    rw [strip_lineComment_newline, ih trivial, List.append_assoc]
    rfl
  | case7 before c rest hc ih => rw [strip_lineComment_cons hc, ih trivial]
  | case8 before c => rw [strip_blockComment_singleton, decode_bytes_append_lastByte]
  | case9 before rest ih => rw [strip_blockComment_close, ih trivial]
  | case10 before rest hrest hclose ih =>
    rw [strip_blockComment_newline hrest, ih trivial, List.append_assoc]
    rfl
  | case11 before c rest hrest hclose hc ih =>
    rw [strip_blockComment_cons hc hrest hclose, ih trivial]

/-- The scan over bytes is a scan over characters, which goes from place to place. -/
theorem stripBytes_bytes (text : List Char) : stripBytes (bytes text) = Place.code.strip [] text :=
  rfl

/-- Without its comments a text is what the scan of characters leaves of it. -/
theorem stripComments_eq_kept (text : List Char) : stripComments text = kept .code [] text :=
  decode_strip .code [] text trivial

end PluginRecovery.Script
