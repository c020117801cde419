import Mathlib
import PluginRecovery.Json.Printer
import PluginRecovery.Json.Reader
import PluginRecovery.Proofs.Script.ValueReading

/-!
Reading what was written. A string literal is read as its text, whatever characters are in it
(`readString_flatMap_escape`), and the compact text of a value, with anything behind it, is read as
the value and what is behind (`readValue_chars`). Numbers keep their literals and strings may have
no text, so this is said of `Written` values, in which there are no numbers and all strings have a
text.
-/

set_option autoImplicit false
set_option relaxedAutoImplicit false

namespace PluginRecovery.Json

/-! ### String literals -/

/-- The value of a hexadecimal digit is read from the digit. -/
theorem hexValue?_hexDigit : ∀ n < 16, hexValue? (hexDigit n) = some n := by
  decide

/-- Units below the surrogates are characters by themselves. -/
theorem pushUnit_of_lt (s : StringSoFar) {unit : ℕ} (h : unit < 0xD800) :
    s.pushUnit unit = s.push (Char.ofNat unit) := by
  rw [StringSoFar.pushUnit, if_neg (by omega), if_neg (by omega)]

/-- The escape of a character is read as the character. -/
theorem readString_escape (s : StringSoFar) (c : Char) (rest : List Char) :
    readString s (escape c ++ rest) = readString (s.push c) rest := by
  unfold escape
  split
  · simp [readString, unescape?]
  · simp [readString, unescape?]
  · simp [readString, unescape?]
  · simp [readString, unescape?]
  · simp [readString, unescape?]
  · next hquote hbackslash hnewline hreturn htab =>
    split_ifs with hbackspace hfeed hcontrol
    · obtain rfl : c = '\x08' := Char.toNat_inj.mp hbackspace
      simp [readString, unescape?]
    · obtain rfl : c = '\x0c' := Char.toNat_inj.mp hfeed
      simp [readString, unescape?]
    · have hunit : hexUnit? '0' '0' (hexDigit (c.toNat / 16)) (hexDigit (c.toNat % 16)) =
          some c.toNat := by
        have hzero : hexValue? '0' = some 0 := rfl
        rw [hexUnit?, hzero, hexValue?_hexDigit _ (by omega), hexValue?_hexDigit _ (by omega)]
        simp only [Option.bind_eq_bind, Option.bind_some, Option.pure_def]
        congr 1
        omega
      simp only [List.cons_append, List.nil_append, readString, hunit]
      rw [pushUnit_of_lt s (by omega), Char.ofNat_toNat]
    · rw [List.singleton_append, readString]
      · simpa [hcontrol] using fun h ↦ (hbackslash h).elim
      all_goals grind

/-- What is encoded one by one is decoded one by one. -/
theorem mapM_map {α β : Type} {encode : α → β} {decode : β → Option α} {items : List α}
    (h : ∀ a ∈ items, decode (encode a) = some a) : (items.map encode).mapM decode = some items :=
  Script.mapM_eq_some_of_forall₂ (List.forall₂_map_left_iff.mpr (List.forall₂_same.mpr h))

/-- Characters of a string are added one by one while no half of a pair waits. -/
theorem foldl_push (text : List Char) (chars : List (Option Char)) :
    text.foldl StringSoFar.push ⟨chars, none⟩ = ⟨(text.map some).reverse ++ chars, none⟩ := by
  induction text generalizing chars with
  | nil => rfl
  | cons c text ih =>
    rw [List.foldl_cons, StringSoFar.push, ih]
    simp

/-- A string literal is read as its text. -/
theorem readString_flatMap_escape (s : String) (rest : List Char) :
    readString {} (s.toList.flatMap escape ++ '"' :: rest) = some (some s, rest) := by
  have hchars (acc : StringSoFar) (text : List Char) :
      readString acc (text.flatMap escape ++ '"' :: rest) =
        some ((text.foldl StringSoFar.push acc).text?, rest) := by
    induction text generalizing acc with
    | nil => rfl
    | cons c text ih => rw [List.flatMap_cons, List.append_assoc, readString_escape, ih]; rfl
  have htext : (s.toList.reverse.map some).mapM id = some s.toList.reverse := mapM_map fun _ _ ↦ rfl
  rw [hchars, foldl_push, StringSoFar.text?, if_neg (by simp), List.append_nil, ← List.map_reverse,
    htext]
  simp

/-! ### Values -/

/-- A value without numbers, all of whose strings and names have a text. -/
inductive Written : Json → Prop
  | null : Written .null
  | bool (b : Bool) : Written (.bool b)
  | text (s : String) : Written (.text s)
  | array {items : List Json} (h : ∀ item ∈ items, Written item) : Written (.array items)
  | obj {members : List (String × Json)} (h : ∀ member ∈ members, Written member.2) :
    Written (.obj members)

theorem skipSpace_cons {c : Char} (h : isSpace c = false) (rest : List Char) :
    skipSpace (c :: rest) = c :: rest := by
  rw [skipSpace, List.dropWhile_cons_of_neg (by simpa using h)]

/-- The text of a value begins with a sign of its kind. -/
theorem Written.exists_cons {j : Json} (h : j.Written) :
    ∃ c rest, j.chars = c :: rest ∧ isSpace c = false ∧ c ≠ ']' := by
  cases h with
  | null => exact ⟨_, _, rfl, by decide⟩
  | bool b => cases b <;> exact ⟨_, _, rfl, by decide⟩
  | text s => exact ⟨_, _, rfl, by decide⟩
  | array => exact ⟨_, _, rfl, by decide⟩
  | obj => exact ⟨_, _, rfl, by decide⟩

/-- The name of a member is read back with its colon. -/
theorem readName_quoted (name : String) (rest : List Char) :
    readName (quoted name.toList ++ ':' :: rest) = some (some name, rest) := by
  have hcolon : skipSpace (':' :: rest) = ':' :: rest := skipSpace_cons rfl rest
  rw [quoted, List.append_assoc, List.cons_append, readName, skipSpace_cons rfl]
  simp [readString_flatMap_escape, hcolon]

theorem itemChars_cons_cons (item next : Json) (rest : List Json) :
    itemChars (item :: next :: rest) = item.chars ++ ',' :: itemChars (next :: rest) := by
  rw [itemChars]
  exact List.cons_ne_nil next rest

/-- The text of items begins as that of the first. -/
theorem exists_cons_itemChars {item : Json} (h : item.Written) (items : List Json) :
    ∃ c rest, itemChars (item :: items) = c :: rest ∧ isSpace c = false ∧ c ≠ ']' := by
  obtain ⟨c, rest, hitem, hc⟩ := h.exists_cons
  cases items with
  | nil => exact ⟨c, rest, hitem, hc⟩
  | cons next items =>
    rw [itemChars_cons_cons, hitem]
    exact ⟨c, _, rfl, hc⟩

theorem memberChars_cons_cons (name : String) (value : Json) (next : Option String × Json)
    (rest : List (Option String × Json)) :
    memberChars ((some name, value) :: next :: rest) =
      quoted name.toList ++ ':' :: (value.chars ++ ',' :: memberChars (next :: rest)) := by
  rw [memberChars, literal, List.append_assoc, List.cons_append]
  exact List.cons_ne_nil next rest

/-- Items with commas between them are read as these items. -/
theorem readItems_itemChars {items : List Json} (hne : items ≠ [])
    (hitems : ∀ item ∈ items, ∀ (fuel : ℕ) (rest : List Char), item.chars.length ≤ fuel →
      readValue fuel (item.chars ++ rest) = some (item, rest))
    {fuel : ℕ} (hfuel : (itemChars items).length < fuel) (rest : List Char) :
    readItems fuel (itemChars items ++ ']' :: rest) = some (items, rest) := by
  induction items generalizing fuel with
  | nil => exact absurd rfl hne
  | cons item items ih =>
    obtain ⟨hitem, hrest⟩ := List.forall_mem_cons.mp hitems
    obtain ⟨fuel, rfl⟩ := Nat.exists_eq_add_one_of_ne_zero (Nat.ne_zero_of_lt hfuel)
    cases items with
    | nil =>
      rw [itemChars] at hfuel ⊢
      rw [readItems, hitem fuel _ (by omega)]
      simp only [skipSpace_cons (c := ']') rfl]
    | cons next items =>
      rw [itemChars_cons_cons, List.length_append, List.length_cons] at hfuel
      rw [itemChars_cons_cons, List.append_assoc, List.cons_append, readItems,
        hitem fuel _ (by omega)]
      simp only [skipSpace_cons (c := ',') rfl]
      rw [ih (List.cons_ne_nil _ _) hrest (by omega)]
      rfl

/-- The members of an object, as an object has them. -/
def named (members : List (String × Json)) : List (Option String × Json) :=
  members.map fun (name, value) ↦ (some name, value)

/-- Members with commas between them are read as these members. -/
theorem readMembers_memberChars {members : List (String × Json)} (hne : members ≠ [])
    (hmembers : ∀ member ∈ members, ∀ (fuel : ℕ) (rest : List Char),
      member.2.chars.length ≤ fuel →
        readValue fuel (member.2.chars ++ rest) = some (member.2, rest))
    {fuel : ℕ} (hfuel : (memberChars (named members)).length < fuel) (rest : List Char) :
    readMembers fuel (memberChars (named members) ++ '}' :: rest) =
      some (named members, rest) := by
  induction members generalizing fuel with
  | nil => exact absurd rfl hne
  | cons member members ih =>
    obtain ⟨hmember, hrest⟩ := List.forall_mem_cons.mp hmembers
    obtain ⟨fuel, rfl⟩ := Nat.exists_eq_add_one_of_ne_zero (Nat.ne_zero_of_lt hfuel)
    obtain ⟨name, value⟩ := member
    replace hmember : ∀ (fuel : ℕ) (rest : List Char), value.chars.length ≤ fuel →
        readValue fuel (value.chars ++ rest) = some (value, rest) := hmember
    cases members with
    | nil =>
      have hmembers : memberChars (named [(name, value)]) =
          quoted name.toList ++ ':' :: value.chars := rfl
      rw [hmembers, List.length_append, List.length_cons] at hfuel
      rw [hmembers, List.append_assoc, List.cons_append, readMembers, readName_quoted]
      simp only [hmember fuel _ (by omega), skipSpace_cons (c := '}') rfl]
      rfl
    | cons next members =>
      have hmembers : memberChars (named ((name, value) :: next :: members)) =
          quoted name.toList ++
            ':' :: (value.chars ++ ',' :: memberChars (named (next :: members))) :=
        memberChars_cons_cons name value _ _
      simp only [hmembers, List.length_append, List.length_cons] at hfuel
      rw [hmembers, List.append_assoc, List.cons_append, List.append_assoc, List.cons_append,
        readMembers, readName_quoted]
      simp only [hmember fuel _ (by omega), skipSpace_cons (c := ',') rfl]
      rw [ih (List.cons_ne_nil _ _) hrest (by omega)]
      rfl

/-- No value is read without fuel, and no text is empty. -/
theorem Written.exists_fuel {j : Json} (h : j.Written) {fuel : ℕ} (hfuel : j.chars.length ≤ fuel) :
    ∃ less, fuel = less + 1 := by
  obtain ⟨c, rest, hchars, -⟩ := h.exists_cons
  rw [hchars, List.length_cons] at hfuel
  exact Nat.exists_eq_add_one_of_ne_zero (by omega)

/-- The text of a value, with anything behind it, is read as the value and what is behind. -/
theorem Written.readValue_chars {j : Json} (h : j.Written) (fuel : ℕ) (rest : List Char)
    (hfuel : j.chars.length ≤ fuel) : readValue fuel (j.chars ++ rest) = some (j, rest) := by
  induction h generalizing fuel rest with
  | null =>
    obtain ⟨fuel, rfl⟩ := Written.null.exists_fuel hfuel
    rfl
  | bool b =>
    obtain ⟨fuel, rfl⟩ := (Written.bool b).exists_fuel hfuel
    cases b <;> rfl
  | text s =>
    obtain ⟨fuel, rfl⟩ := (Written.text s).exists_fuel hfuel
    rw [Json.text, chars, literal, quoted, List.append_assoc, List.cons_append, readValue,
      skipSpace_cons rfl]
    simp only [List.singleton_append, readString_flatMap_escape]
    rfl
  | @array items h ih =>
    obtain ⟨fuel, rfl⟩ := (Written.array h).exists_fuel hfuel
    cases items with
    | nil => rfl
    | cons item items =>
      rw [chars, List.length_append, List.length_cons, List.length_singleton] at hfuel
      have hlt : (itemChars (item :: items)).length < fuel := by omega
      have hread := readItems_itemChars (List.cons_ne_nil item items) ih hlt rest
      -- the text does not go on with the bracket of an empty array
      obtain ⟨c, others, hitems, hspace, hclose⟩ :=
        exists_cons_itemChars (h item List.mem_cons_self) items
      rw [chars, List.append_assoc, List.cons_append, readValue, skipSpace_cons rfl]
      simp only [List.singleton_append, hread, Option.map_some]
      rw [hitems, List.cons_append, skipSpace_cons hspace]
      split
      · next heq => exact absurd (List.cons.inj heq).1 hclose
      · rfl
  | @obj members h ih =>
    obtain ⟨fuel, rfl⟩ := (Written.obj h).exists_fuel hfuel
    change (chars (.object (named members))).length ≤ fuel + 1 at hfuel
    change readValue (fuel + 1) (chars (.object (named members)) ++ rest) =
      some (.object (named members), rest)
    cases members with
    | nil => rfl
    | cons member members =>
      rw [chars, List.length_append, List.length_cons, List.length_singleton] at hfuel
      have hlt : (memberChars (named (member :: members))).length < fuel := by omega
      have hread := readMembers_memberChars (List.cons_ne_nil member members) ih hlt rest
      -- the text goes on with the quote of a name
      obtain ⟨others, hmembers⟩ :
          ∃ others, memberChars (named (member :: members)) = '"' :: others := by
        cases members <;> exact ⟨_, rfl⟩
      rw [chars, List.append_assoc, List.cons_append, readValue, skipSpace_cons rfl]
      simp only [List.singleton_append, hread, Option.map_some]
      rw [hmembers, List.cons_append, skipSpace_cons rfl]
      rfl

/-- The compact text of a value is read as the value. -/
theorem Written.read?_compact {j : Json} (h : j.Written) : read? j.compact.toList = some j := by
  rw [compact, String.toList_ofList, read?]
  have hread := h.readValue_chars (2 * j.chars.length + 2) [] (by omega)
  rw [List.append_nil] at hread
  rw [hread]
  rfl

end PluginRecovery.Json
