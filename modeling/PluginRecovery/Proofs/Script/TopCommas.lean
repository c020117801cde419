import Mathlib
import PluginRecovery.Proofs.Script.Splitting

/-!
Where the splitter cuts. A text stands at the top when it leaves no literal open and has, outside
literals, as many opening as closing braces and as many opening as closing brackets (`AtTop`); this
is said by counting, without the splitter's state, and `after_eq` shows that the state counts the
same. `splitAtCommas_segments` says that the commas between the segments are those that stand at the
top, that nothing else is lost or changed, and what the splitter drops. `splitAtCommas_joined` is
the way back: texts with no comma at the top that end there are found in any join with commas, and
a comma behind a text that ends at the top splits what is before it from what is after it.
-/

set_option autoImplicit false
set_option relaxedAutoImplicit false

namespace PluginRecovery.Script

open PluginRecovery.Text

/-! ### Standing at the top -/

/-- Whether an odd number of backslashes ends a text, which is given newest character first. -/
def oddBackslashes (before : List Char) : Bool :=
  (before.takeWhile (· = '\\')).length % 2 == 1

/-- The quote of the literal that a text, given newest character first, leaves open. Quotes after an
odd number of backslashes do not count, nor do those of another kind inside a literal. -/
def openQuote : List Char → Option Char
  | [] => none
  | c :: before =>
    if c ∈ quotes ∧ oddBackslashes before = false then
      match openQuote before with
      | none => some c
      | some quote => if c = quote then none else some quote
    else openQuote before

/-- How often a mark stands outside literals in a text, which is given newest character first. -/
def outsideCount (mark : Char) : List Char → Nat
  | [] => 0
  | c :: before =>
    outsideCount mark before + if c = mark ∧ openQuote before = none then 1 else 0

/-- After the text no literal is open, and as many braces and brackets were closed as opened. -/
def AtTop (text : List Char) : Prop :=
  openQuote text.reverse = none ∧
    outsideCount '{' text.reverse = outsideCount '}' text.reverse ∧
    outsideCount '[' text.reverse = outsideCount ']' text.reverse

instance decidableAtTop (text : List Char) : Decidable (AtTop text) :=
  inferInstanceAs (Decidable (_ ∧ _ ∧ _))

/-- No comma of the text stands at the top. -/
def NoTopComma (text : List Char) : Prop :=
  ∀ front back, text = front ++ ',' :: back → ¬ AtTop front

theorem mem_quotes_of_openQuote {before : List Char} {quote : Char}
    (h : openQuote before = some quote) : quote ∈ quotes := by
  induction before with
  | nil => exact absurd h (Option.some_ne_none quote).symm
  | cons c before ih =>
    unfold openQuote at h
    by_cases hc : c ∈ quotes ∧ oddBackslashes before = false
    · rw [if_pos hc] at h
      cases hopen : openQuote before with
      | none =>
        rw [hopen] at h
        exact Option.some.inj h ▸ hc.1
      | some other =>
        rw [hopen] at h ih
        by_cases heq : c = other
        · exact absurd h (by simp [heq])
        · simp only [if_neg heq] at h
          exact ih h
    · rw [if_neg hc] at h
      exact ih h

/-- One more backslash turns an odd number into an even one and the other way round; any other
character ends the row. -/
theorem oddBackslashes_cons (c : Char) (before : List Char) :
    oddBackslashes (c :: before) = (c = '\\' && !oddBackslashes before) := by
  unfold oddBackslashes
  by_cases hc : c = '\\'
  · rw [List.takeWhile_cons, if_pos (decide_eq_true hc), List.length_cons, decide_eq_true hc,
      Bool.true_and, Bool.eq_iff_iff]
    simp only [beq_iff_eq, Bool.not_eq_true', beq_eq_false_iff_ne]
    omega
  · simp [hc]

/-- The splitter's own account of the open literal is that of `openQuote`. -/
theorem toggle_map_toUInt8 {c : Char} (hc : c ∈ quotes) (before : List Char) :
    toggle ((openQuote before).map Char.toUInt8) c.toUInt8 =
      (match openQuote before with
        | none => some c
        | some quote => if c = quote then none else some quote).map Char.toUInt8 := by
  cases hopen : openQuote before with
  | none => rfl
  | some quote =>
    have hbytes : (c.toUInt8 == quote.toUInt8) = decide (c = quote) := by
      rw [Bool.eq_iff_iff, beq_iff_eq, decide_eq_true_iff]
      exact toUInt8_eq_iff (toNat_lt_of_mem_quotes hc)
        (toNat_lt_of_mem_quotes (mem_quotes_of_openQuote hopen))
    simp only [Option.map_some, toggle, hbytes, decide_eq_true_eq]
    by_cases heq : c = quote
    · rw [if_pos heq, if_pos heq]
      rfl
    · rw [if_neg heq, if_neg heq]
      rfl

/-- The nesting that counting gives for a text, newest character first. -/
def counted (before : List Char) : Nesting where
  inside := (openQuote before).map Char.toUInt8
  braces := outsideCount '{' before - outsideCount '}' before
  brackets := outsideCount '[' before - outsideCount ']' before

theorem outsideCount_cons_of_ne {mark c : Char} (h : c ≠ mark) (before : List Char) :
    outsideCount mark (c :: before) = outsideCount mark before := by
  rw [outsideCount, if_neg fun hc ↦ h hc.1, Nat.add_zero]

/-- The nesting that the scan keeps is what can be counted in the text before it. -/
theorem read_counted (before : List Char) (c : Char) :
    (counted before).read (oddBackslashes before) c = counted (c :: before) := by
  unfold Nesting.read
  by_cases hquote : c ∈ quotes ∧ oddBackslashes before = false
  · -- A quote that opens or closes a literal is no bracket.
    have hne : ∀ mark ∈ ['{', '}', '[', ']'], c ≠ mark := by
      have hquotes := hquote.1
      simp only [quotes, List.mem_cons, List.not_mem_nil, or_false] at hquotes
      rcases hquotes with rfl | rfl | rfl <;> simp
    rw [if_pos hquote]
    simp only [counted, toggle_map_toUInt8 hquote.1, openQuote, if_pos hquote]
    rw [outsideCount_cons_of_ne (hne '{' (by decide)),
      outsideCount_cons_of_ne (hne '}' (by decide)),
      outsideCount_cons_of_ne (hne '[' (by decide)), outsideCount_cons_of_ne (hne ']' (by decide))]
  · rw [if_neg hquote]
    have hopen : openQuote (c :: before) = openQuote before := if_neg hquote
    cases hbefore : openQuote before with
    | some quote =>
      simp [counted, hopen, hbefore, outsideCount]
    | none =>
      have hcount : ∀ mark, outsideCount mark (c :: before) =
          outsideCount mark before + if c = mark then 1 else 0 := fun mark ↦ by
        simp only [outsideCount, hbefore, and_true]
      rw [if_neg (by simp [counted, hbefore])]
      simp only [counted, hopen, hbefore, hcount]
      -- The four marks are different, so that each adds to one count only.
      by_cases hbraceOpen : c = '{'
      · subst hbraceOpen
        simp [sub_add_eq_add_sub]
      by_cases hbraceClosed : c = '}'
      · subst hbraceClosed
        simp [sub_sub]
      by_cases hbracketOpen : c = '['
      · subst hbracketOpen
        simp [sub_add_eq_add_sub]
      by_cases hbracketClosed : c = ']'
      · subst hbracketClosed
        simp [sub_sub]
      simp only [if_neg hbraceOpen, if_neg hbraceClosed, if_neg hbracketOpen, if_neg hbracketClosed,
        Nat.add_zero]

/-- The splitter counts what `AtTop` counts. -/
theorem after_eq (text : List Char) :
    Cursor.after {} text = ⟨counted text.reverse, oddBackslashes text.reverse⟩ := by
  induction text using List.reverseRecOn with
  | nil => rfl
  | append_singleton text c ih =>
    rw [Cursor.after, List.foldl_append]
    change (Cursor.after {} text).next c = _
    rw [ih, List.reverse_concat, Cursor.next, read_counted, oddBackslashes_cons]

theorem atTop_iff (text : List Char) : AtTop text ↔ (Cursor.after {} text).nesting = {} := by
  rw [after_eq]
  unfold AtTop counted
  constructor
  · rintro ⟨hquote, hbraces, hbrackets⟩
    simp [hquote, hbraces, hbrackets]
  · intro h
    rw [Nesting.mk.injEq, Option.map_eq_none_iff] at h
    exact ⟨h.1, by omega, by omega⟩

/-! ### The segments -/

theorem isTop_iff (n : Nesting) : n.isTop = true ↔ n = {} := by
  cases n
  simp [Nesting.isTop, and_assoc]

theorem intercalate_modifyHead (c : Char) {texts : List (List Char)} (h : texts ≠ []) :
    [','].intercalate (texts.modifyHead (c :: ·)) = c :: [','].intercalate texts := by
  obtain ⟨text, texts, rfl⟩ := List.exists_cons_of_ne_nil h
  cases texts with
  | nil => simp
  | cons next texts => simp [List.intercalate_cons_cons]

theorem intercalate_nil_cons {texts : List (List Char)} (h : texts ≠ []) :
    [','].intercalate ([] :: texts) = ',' :: [','].intercalate texts := by
  obtain ⟨text, texts, rfl⟩ := List.exists_cons_of_ne_nil h
  rw [List.intercalate_cons_cons]
  rfl

/-- The parts with commas between them are the text. -/
theorem intercalate_parts (cursor : Cursor) (text : List Char) :
    [','].intercalate (parts cursor text) = text := by
  induction text generalizing cursor with
  | nil => rfl
  | cons c text ih =>
    have hne := parts_ne_nil (cursor.next c) text
    by_cases hc : c = ',' ∧ cursor.nesting.isTop
    · rw [parts, if_pos hc, intercalate_nil_cons hne, ih, hc.1]
    · rw [parts, if_neg hc, intercalate_modifyHead c hne, ih]

theorem length_le_of_mem_parts {cursor : Cursor} {text part : List Char}
    (h : part ∈ parts cursor text) : part.length ≤ text.length := by
  have hle := length_le_length_intercalate h
  rwa [intercalate_parts] at hle

/-- What comes before one of the cuts ends at the top. -/
theorem isTop_of_parts_eq_append {start : Cursor} {text : List Char}
    {before after : List (List Char)} (h : parts start text = before ++ after)
    (hbefore : before ≠ []) (hafter : after ≠ []) :
    (start.after ([','].intercalate before)).nesting.isTop = true := by
  induction text generalizing start before with
  | nil =>
    have hlength := congrArg List.length h
    rw [List.length_append, parts, List.length_singleton] at hlength
    have hpos := List.length_pos_of_ne_nil hbefore
    have hpos' := List.length_pos_of_ne_nil hafter
    omega
  | cons c text ih =>
    obtain ⟨first, before, rfl⟩ := List.exists_cons_of_ne_nil hbefore
    rw [parts] at h
    by_cases hc : c = ',' ∧ start.nesting.isTop
    · rw [if_pos hc, List.cons_append] at h
      obtain ⟨rfl, hrest⟩ := List.cons.inj h
      obtain ⟨rfl, htop⟩ := hc
      by_cases hnil : before = []
      · rw [hnil]
        exact htop
      · rw [intercalate_nil_cons hnil]
        exact ih hrest hnil
    · rw [if_neg hc] at h
      obtain ⟨head, tail, hparts⟩ := List.exists_cons_of_ne_nil (parts_ne_nil (start.next c) text)
      rw [hparts, List.modifyHead_cons, List.cons_append] at h
      obtain ⟨rfl, rfl⟩ := List.cons.inj h
      have hjoin := intercalate_modifyHead c (List.cons_ne_nil head before)
      rw [List.modifyHead_cons] at hjoin
      rw [hjoin]
      exact ih hparts (List.cons_ne_nil head before)

/-- The texts before and after one of the commas between the segments. -/
def JoinedAt (texts : List (List Char)) (front back : List Char) : Prop :=
  ∃ before after, before ≠ [] ∧ after ≠ [] ∧ texts = before ++ after ∧
    [','].intercalate before = front ∧ [','].intercalate after = back

/-- A comma stands at the top exactly when the text is cut there. -/
theorem atTop_iff_joinedAt (front back : List Char) :
    AtTop front ↔ JoinedAt (parts {} (front ++ ',' :: back)) front back := by
  constructor
  · intro h
    exact ⟨parts {} front, parts {} back, parts_ne_nil _ _, parts_ne_nil _ _,
      parts_append_comma ((atTop_iff front).mp h) back, intercalate_parts _ _,
      intercalate_parts _ _⟩
  · rintro ⟨before, after, hbefore, hafter, hparts, rfl, -⟩
    rw [atTop_iff, ← isTop_iff]
    exact isTop_of_parts_eq_append hparts hbefore hafter

/-- The text is one part exactly if none of its commas is at the top. -/
theorem parts_eq_singleton_iff (text : List Char) :
    parts {} text = [text] ↔ NoTopComma text := by
  constructor
  · rintro h front back rfl htop
    obtain ⟨before, after, hbefore, hafter, hparts, -⟩ := (atTop_iff_joinedAt front back).mp htop
    have hlength := congrArg List.length (h.symm.trans hparts)
    rw [List.length_append, List.length_singleton] at hlength
    have hpos := List.length_pos_of_ne_nil hbefore
    have hpos' := List.length_pos_of_ne_nil hafter
    omega
  · intro h
    obtain ⟨part, rest, hparts⟩ := List.exists_cons_of_ne_nil (parts_ne_nil {} text)
    have hjoin := intercalate_parts {} text
    cases rest with
    | nil =>
      rw [hparts, List.intercalate_singleton] at hjoin
      rw [hparts, hjoin]
    | cons next rest =>
      -- A second part would begin behind a comma at the top.
      rw [hparts, List.intercalate_cons_cons, List.append_assoc, List.singleton_append] at hjoin
      have htop : AtTop part := by
        rw [atTop_iff_joinedAt, hjoin]
        exact ⟨[part], next :: rest, List.cons_ne_nil _ _, List.cons_ne_nil _ _, hparts,
          List.intercalate_singleton, rfl⟩
      exact absurd htop (h part _ hjoin.symm)

/-- A text is its segments with commas between them, and those are the commas at the top. The
splitter gives the segments that are not empty, each trimmed, and reads their bytes without loss. -/
theorem splitAtCommas_segments (text : List Char) :
    ∃ texts : List (List Char),
      [','].intercalate texts = text ∧
      (∀ front back, text = front ++ ',' :: back → (AtTop front ↔ JoinedAt texts front back)) ∧
      splitAtCommas text = (texts.filter (!·.isEmpty)).map trim ∧
      segments (bytes text) = texts.map bytes ∧
      ∀ segment ∈ segments (bytes text), bytes (decode segment) = segment := by
  refine ⟨parts {} text, intercalate_parts {} text, ?_, splitAtCommas_eq_parts text,
    segments_bytes text, ?_⟩
  · rintro front back rfl
    exact atTop_iff_joinedAt front back
  · intro segment hsegment
    rw [segments_bytes, List.mem_map] at hsegment
    obtain ⟨part, -, rfl⟩ := hsegment
    rw [decode_bytes]

/-- A stray brace lowers the depth for good: the comma inside the braces stands at the top, the two
after them do not. -/
theorem splitAtCommas_segments_stray_brace :
    ∃ texts, [','].intercalate texts = "\x7d\x7ba,b\x7d,\"c,d\",é".toList ∧
      JoinedAt texts "\x7d\x7ba".toList "b\x7d,\"c,d\",é".toList ∧
      ¬ JoinedAt texts "\x7d\x7ba,b\x7d".toList "\"c,d\",é".toList ∧
      splitAtCommas "\x7d\x7ba,b\x7d,\"c,d\",é".toList =
        ["\x7d\x7ba".toList, "b\x7d,\"c,d\",é".toList] := by
  obtain ⟨texts, hjoin, hcommas, -, -, -⟩ :=
    splitAtCommas_segments "\x7d\x7ba,b\x7d,\"c,d\",é".toList
  refine ⟨texts, hjoin, (hcommas _ _ rfl).mp (by decide), ?_, by decide⟩
  intro hjoined
  exact absurd ((hcommas _ _ rfl).mpr hjoined) (by decide)

/-! ### Joins -/

/-- A text that can be had back from a join: it is not empty, has neither white space at its ends
nor a comma at the top, and ends at the top. -/
structure IsItem (text : List Char) : Prop where
  ne_nil : text ≠ []
  trimmed : Trimmed text
  noTopComma : NoTopComma text
  atTop : AtTop text

/-- The text is the given ones in a row, with a comma between any two, around which there may be
white space. -/
inductive Joined : List (List Char) → List Char → Prop
  | nil : Joined [] []
  | single (text : List Char) : Joined [text] text
  | cons (text left right : List Char) {next rest : List Char} {texts : List (List Char)}
      (hleft : blank left = true) (hright : blank right = true) (h : Joined (next :: texts) rest) :
      Joined (text :: next :: texts) (text ++ left ++ ',' :: (right ++ rest))

/-- A join may do without white space. -/
theorem joined_intercalate (texts : List (List Char)) : Joined texts ([','].intercalate texts) := by
  induction texts with
  | nil => exact .nil
  | cons text texts ih =>
    cases texts with
    | nil =>
      rw [List.intercalate_singleton]
      exact .single text
    | cons next texts =>
      have hjoined := Joined.cons text [] [] rfl rfl ih
      rwa [List.append_nil, List.nil_append] at hjoined

theorem not_mark_of_isBlank {c : Char} (h : isBlank c = true) :
    c ≠ ',' ∧ c ≠ '\\' ∧ c ∉ nestingMarks := by
  refine ⟨?_, ?_, ?_⟩
  · rintro rfl
    exact absurd h (by decide)
  · rintro rfl
    exact absurd h (by decide)
  · intro hmark
    simp only [nestingMarks, quotes, List.cons_append, List.nil_append, List.mem_cons,
      List.not_mem_nil, or_false] at hmark
    rcases hmark with rfl | rfl | rfl | rfl | rfl | rfl | rfl <;> exact absurd h (by decide)

/-- White space changes nothing but that what follows it is not escaped. -/
theorem reads_of_blank {text : List Char} (h : blank text = true) (n : Nesting) (escaped : Bool) :
    ∃ escaped', Reads text ⟨n, escaped⟩ ⟨n, escaped'⟩ ∧ (escaped = false → escaped' = false) := by
  induction text generalizing escaped with
  | nil => exact ⟨escaped, reads_nil _, id⟩
  | cons c text ih =>
    rw [blank, List.all_cons, Bool.and_eq_true] at h
    obtain ⟨hcomma, hbackslash, hmark⟩ := not_mark_of_isBlank h.1
    obtain ⟨escaped', hreads, hescaped⟩ := ih h.2 false
    have hnext : Cursor.next ⟨n, escaped⟩ c = ⟨n, false⟩ := by
      rw [Cursor.next, Nesting.read_of_notMem hmark, decide_eq_false hbackslash, Bool.false_and]
    exact ⟨escaped', hreads.cons (fun hc ↦ hcomma hc.1) hnext, fun _ ↦ hescaped rfl⟩

theorem IsItem.closed {text : List Char} (h : IsItem text) : Closed text :=
  ⟨(parts_eq_singleton_iff text).mpr h.noTopComma, (atTop_iff text).mp h.atTop⟩

/-- White space around a closed text changes nothing for the splitter. -/
theorem Closed.padded {text left right : List Char} (h : Closed text) (hleft : blank left = true)
    (hright : blank right = true) : Closed (left ++ text ++ right) := by
  obtain ⟨escaped, hreadsLeft, hescaped⟩ := reads_of_blank hleft {} false
  obtain rfl := hescaped rfl
  obtain ⟨_, hreadsRight, -⟩ := reads_of_blank hright {} (Cursor.after {} text).escaped
  exact ((hreadsLeft.append h.reads).append hreadsRight).closed rfl

/-- White space around an item is lost, and nothing else. -/
theorem IsItem.splitAtCommas_padded {text left right : List Char} (h : IsItem text)
    (hleft : blank left = true) (hright : blank right = true) :
    splitAtCommas (left ++ text ++ right) = [text] := by
  have hne : left ++ text ++ right ≠ [] := by
    simp [h.ne_nil]
  have hsplit := splitAtCommas_intercalate (List.forall_mem_singleton.mpr hne)
    (List.forall_mem_singleton.mpr (h.closed.padded hleft hright))
  rwa [List.intercalate_singleton, List.map_singleton, trim_padded hleft hright, h.trimmed.trim_eq]
    at hsplit

/-- A comma at the top splits what is before it from what is after it. -/
theorem splitAtCommas_append_comma {front : List Char} (h : AtTop front) (back : List Char) :
    splitAtCommas (front ++ ',' :: back) = splitAtCommas front ++ splitAtCommas back := by
  simp only [splitAtCommas_eq_parts]
  rw [parts_append_comma ((atTop_iff front).mp h), List.filter_append, List.map_append]

/-- A join of items, and white space before it, is split into the items. -/
theorem Joined.splitAtCommas_append {texts : List (List Char)} {text : List Char}
    (h : Joined texts text) (hne : texts ≠ []) (hitems : ∀ t ∈ texts, IsItem t)
    {left : List Char} (hleft : blank left = true) : splitAtCommas (left ++ text) = texts := by
  induction h generalizing left with
  | nil => exact absurd rfl hne
  | single text =>
    have hitem := hitems text List.mem_cons_self
    have hsplit := hitem.splitAtCommas_padded hleft (show blank [] = true from rfl)
    rwa [List.append_nil] at hsplit
  | @cons text before after next rest texts hbefore hafter _ ih =>
    have hitem := hitems text List.mem_cons_self
    have htop : AtTop (left ++ text ++ before) :=
      (atTop_iff _).mpr (hitem.closed.padded hleft hbefore).2
    have hrest := ih (List.cons_ne_nil next texts)
      (fun t ht ↦ hitems t (List.mem_cons_of_mem text ht)) hafter
    rw [← List.append_assoc, ← List.append_assoc, splitAtCommas_append_comma htop, hrest,
      hitem.splitAtCommas_padded hleft hbefore]
    rfl

/-- Splitting undoes joining: items are found in their join with commas, with or without white space
around these. A comma behind any text that ends at the top splits it from what follows. -/
theorem splitAtCommas_joined :
    (∀ texts : List (List Char), (∀ text ∈ texts, IsItem text) →
      splitAtCommas ([','].intercalate texts) = texts ∧
        ∀ text, Joined texts text → splitAtCommas text = texts) ∧
      ∀ front back : List Char, AtTop front →
        splitAtCommas (front ++ ',' :: back) = splitAtCommas front ++ splitAtCommas back := by
  have hjoined : ∀ (texts : List (List Char)) (text : List Char), (∀ t ∈ texts, IsItem t) →
      Joined texts text → splitAtCommas text = texts := by
    intro texts text hitems h
    by_cases hne : texts = []
    · subst hne
      cases h
      rfl
    · exact h.splitAtCommas_append hne hitems (show blank [] = true from rfl)
  constructor
  · intro texts hitems
    exact ⟨hjoined texts _ hitems (joined_intercalate texts),
      fun text h ↦ hjoined texts text hitems h⟩
  · intro front back h
    exact splitAtCommas_append_comma h back

/-- An item with a comma in a literal in an array, one that ends in a backslash, white space of two
kinds around the comma, and a front with an empty segment. -/
theorem splitAtCommas_joined_backslash :
    splitAtCommas "[1,'],'] ,\u3000a\\".toList = ["[1,'],']".toList, "a\\".toList] ∧
      AtTop "a\\, ,".toList ∧
      splitAtCommas "a\\, ,,'b".toList = ["a\\".toList, []] ++ ["'b".toList] := by
  have harray : IsItem "[1,'],']".toList :=
    ⟨by decide, trimmed_enclosed rfl "1,'],'".toList rfl, (parts_eq_singleton_iff _).mp (by decide),
      by decide⟩
  have hword : IsItem "a\\".toList :=
    ⟨by decide, trimmed_of_forall (by simp [isBlank]), (parts_eq_singleton_iff _).mp (by decide),
      by decide⟩
  have hitems : ∀ text ∈ ["[1,'],']".toList, "a\\".toList], IsItem text :=
    List.forall_mem_cons.mpr ⟨harray, List.forall_mem_singleton.mpr hword⟩
  have hjoined : Joined ["[1,'],']".toList, "a\\".toList] "[1,'],'] ,\u3000a\\".toList :=
    .cons "[1,'],']".toList [' '] ['\u3000'] rfl rfl (.single "a\\".toList)
  have htop : AtTop "a\\, ,".toList := by
    decide
  exact ⟨(splitAtCommas_joined.1 _ hitems).2 _ hjoined, htop,
    splitAtCommas_joined.2 "a\\, ,".toList "'b".toList htop⟩

end PluginRecovery.Script
