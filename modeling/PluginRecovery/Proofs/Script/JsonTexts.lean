import Mathlib
import PluginRecovery.Proofs.Decimal.Integer
import PluginRecovery.Proofs.Script.Splitting
import PluginRecovery.Proofs.Text.Trimming
import PluginRecovery.Script.Value

/-!
JSON texts, as the splitter reads them. A string literal leads the splitter back to where it stood,
with whatever quotes, commas and brackets the string has; so do the brackets of an array and the
braces of an object. Texts that do so from wherever they are read are balanced (`Balanced`).
-/

set_option autoImplicit false
set_option relaxedAutoImplicit false

namespace PluginRecovery

open PluginRecovery.Text

namespace Json

/-! ### Joins with commas -/

theorem itemChars_eq_intercalate (items : List Json) :
    itemChars items = [','].intercalate (items.map chars) := by
  induction items with
  | nil => rfl
  | cons item items ih =>
    cases items with
    | nil => simp [itemChars]
    | cons next items => simp_all [itemChars]

def memberText (member : Option String × Json) : List Char :=
  literal member.1 ++ ':' :: chars member.2

theorem memberChars_eq_intercalate (members : List (Option String × Json)) :
    memberChars members = [','].intercalate (members.map memberText) := by
  induction members with
  | nil => rfl
  | cons member members ih =>
    cases members with
    | nil => simp [memberChars, memberText]
    | cons next members => simp_all [memberChars, memberText]

/-! ### Characters of a string literal -/

/-- A character is written as it is, or after a backslash. -/
theorem escape_cases (c : Char) :
    (escape c = [c] ∧ c ≠ '"' ∧ c ≠ '\\') ∨
      ∃ letter rest, escape c = '\\' :: letter :: rest ∧ ∀ d ∈ rest, d ≠ '"' ∧ d ≠ '\\' := by
  have hhex : ∀ n < 16, hexDigit n ≠ '"' ∧ hexDigit n ≠ '\\' := by decide
  unfold escape
  split
  · exact Or.inr ⟨_, [], rfl, by simp⟩
  · exact Or.inr ⟨_, [], rfl, by simp⟩
  · exact Or.inr ⟨_, [], rfl, by simp⟩
  · exact Or.inr ⟨_, [], rfl, by simp⟩
  · exact Or.inr ⟨_, [], rfl, by simp⟩
  · next hquote hbackslash hnewline hreturn htab =>
    split_ifs with hbackspace hfeed hcontrol
    · exact Or.inr ⟨_, [], rfl, by simp⟩
    · exact Or.inr ⟨_, [], rfl, by simp⟩
    · refine Or.inr ⟨'u', _, rfl, ?_⟩
      simp [hhex (c.toNat / 16) (by omega), hhex (c.toNat % 16) (by omega)]
    · exact Or.inl ⟨rfl, hquote, hbackslash⟩

theorem escape_ne_nil (c : Char) : escape c ≠ [] := by
  rcases escape_cases c with ⟨hescape, -⟩ | ⟨letter, rest, hescape, -⟩
  · rw [hescape]
    exact List.cons_ne_nil c []
  · rw [hescape]
    exact List.cons_ne_nil _ _

end Json

namespace Script

/-! ### The splitter in a string literal -/

/-- In a literal nothing but its quote changes the nesting. -/
theorem Nesting.read_of_inside {n : Nesting} {quote : Char} (hquote : quote ∈ quotes)
    (h : n.inside = some quote.toUInt8) {c : Char} (hc : c ≠ quote) : n.read false c = n := by
  have hinside : n.inside.isSome = true := by rw [h]; rfl
  by_cases hother : c ∈ quotes
  · have hne : c.toUInt8 ≠ quote.toUInt8 := by
      rw [Ne, toUInt8_eq_iff (toNat_lt_of_mem_quotes hother) (toNat_lt_of_mem_quotes hquote)]
      exact hc
    have htoggle : toggle n.inside c.toUInt8 = n.inside := by
      rw [h, toggle, if_neg (by simpa using hne)]
    rw [Nesting.read, if_pos ⟨hother, rfl⟩, htoggle]
  · rw [Nesting.read, if_neg (fun h ↦ hother h.1), if_pos hinside]

/-- Nothing inside a literal is at the top. -/
theorem Nesting.isTop_of_inside {n : Nesting} {quote : UInt8} (h : n.inside = some quote) :
    n.isTop = false := by
  rw [Nesting.isTop, h]
  rfl

/-- A text without its quote and without backslashes is read through inside a literal. -/
theorem reads_inside {n : Nesting} {quote : Char} (hquote : quote ∈ quotes)
    (h : n.inside = some quote.toUInt8) {text : List Char}
    (htext : ∀ c ∈ text, c ≠ quote ∧ c ≠ '\\') : Reads text ⟨n, false⟩ ⟨n, false⟩ := by
  have htop := Nesting.isTop_of_inside h
  induction text with
  | nil => exact reads_nil _
  | cons c text ih =>
    obtain ⟨hne, hbackslash⟩ := htext c List.mem_cons_self
    have hnext : Cursor.next ⟨n, false⟩ c = ⟨n, false⟩ := by
      rw [Cursor.next, Nesting.read_of_inside hquote h hne, decide_eq_false hbackslash]
      rfl
    refine .cons ?_ hnext (ih fun d hd ↦ htext d (List.mem_cons_of_mem c hd))
    rw [htop]
    simp

/-- The escape of a character leads back into the literal. -/
theorem reads_escape {n : Nesting} (h : n.inside = some '"'.toUInt8) (c : Char) :
    Reads (Json.escape c) ⟨n, false⟩ ⟨n, false⟩ := by
  have hquote : '"' ∈ quotes := by decide
  have htop := Nesting.isTop_of_inside h
  have hsome : n.inside.isSome = true := by rw [h]; rfl
  rcases Json.escape_cases c with ⟨hescape, hc⟩ | ⟨letter, rest, hescape, hrest⟩
  · rw [hescape]
    exact reads_inside hquote h (by simpa using hc)
  · have hbackslash : Cursor.next ⟨n, false⟩ '\\' = ⟨n, true⟩ := by
      rw [Cursor.next, Nesting.read_of_inside hquote h (by decide)]
      rfl
    have hletter : Cursor.next ⟨n, true⟩ letter = ⟨n, false⟩ := by
      rw [Cursor.next, Nesting.read, if_neg (by simp), if_pos hsome]
      simp
    have hnot (d : Char) : ¬ (d = ',' ∧ n.isTop) := by
      rw [htop]
      simp
    rw [hescape]
    exact .cons (hnot _) hbackslash (.cons (hnot _) hletter (reads_inside hquote h hrest))

/-! ### Balanced texts -/

/-- Outside literals, with no stray closing braces and brackets before. -/
def Nesting.Outside (n : Nesting) : Prop :=
  n.inside = none ∧ 0 ≤ n.braces ∧ 0 ≤ n.brackets

/-- From wherever outside literals it is read, the text leads back there and meets no comma at the
top. -/
def Balanced (text : List Char) : Prop :=
  ∀ n : Nesting, n.Outside → Reads text ⟨n, false⟩ ⟨n, false⟩

/-- A balanced text has no comma at the top and ends there. -/
theorem Balanced.closed {text : List Char} (h : Balanced text) : Closed text :=
  (h {} ⟨rfl, le_refl _, le_refl _⟩).closed rfl

theorem Balanced.append_closed {front text : List Char} (hfront : Balanced front)
    (h : Closed text) : Closed (front ++ text) :=
  ((hfront {} ⟨rfl, le_refl _, le_refl _⟩).append h.reads).closed rfl

/-- Balanced texts in a row are balanced. -/
theorem Balanced.append {front back : List Char} (hfront : Balanced front)
    (hback : Balanced back) : Balanced (front ++ back) :=
  fun n hn ↦ (hfront n hn).append (hback n hn)

/-- A text without the characters that the splitter looks for is balanced. -/
theorem balanced_of_forall {text : List Char}
    (h : ∀ c ∈ text, c ∉ nestingMarks ∧ c ≠ ',' ∧ c ≠ '\\') : Balanced text := by
  intro n hn
  induction text with
  | nil => exact reads_nil _
  | cons c text ih =>
    obtain ⟨hmarks, hcomma, hbackslash⟩ := h c List.mem_cons_self
    have hnext : Cursor.next ⟨n, false⟩ c = ⟨n, false⟩ := by
      rw [Cursor.next, Nesting.read_of_notMem hmarks, decide_eq_false hbackslash]
      rfl
    exact .cons (fun hc ↦ hcomma hc.1) hnext (ih fun d hd ↦ h d (List.mem_cons_of_mem c hd))

theorem balanced_toString (n : ℤ) : Balanced (toString n).toList := by
  refine balanced_of_forall fun c hc ↦ ?_
  rcases Decimal.mem_toString hc with hdigit | rfl
  · refine ⟨?_, ?_, ?_⟩
    · intro hmarks
      simp only [nestingMarks, quotes, List.cons_append, List.nil_append, List.mem_cons,
        List.not_mem_nil, or_false] at hmarks
      rcases hmarks with rfl | rfl | rfl | rfl | rfl | rfl | rfl <;> exact absurd hdigit (by decide)
    · rintro rfl
      exact absurd hdigit (by decide)
    · rintro rfl
      exact absurd hdigit (by decide)
  · decide

/-- A literal is balanced, whatever is read between its quotes without closing it. -/
theorem balanced_literal {quote : Char} (hquote : quote ∈ quotes) {body : List Char}
    (hbody : ∀ n : Nesting, n.inside = some quote.toUInt8 → Reads body ⟨n, false⟩ ⟨n, false⟩) :
    Balanced (quote :: body ++ [quote]) := by
  rintro n ⟨h, -, -⟩
  let inner : Nesting := { n with inside := some quote.toUInt8 }
  have hcomma : quote ≠ ',' := by
    rintro rfl
    exact absurd hquote (by decide)
  have hbackslash : quote ≠ '\\' := by
    rintro rfl
    exact absurd hquote (by decide)
  have hopen : Cursor.next ⟨n, false⟩ quote = ⟨inner, false⟩ := by
    rw [Cursor.next, Nesting.read, if_pos ⟨hquote, rfl⟩, h, decide_eq_false hbackslash]
    rfl
  have hclose : Cursor.next ⟨inner, false⟩ quote = ⟨n, false⟩ := by
    rw [Cursor.next, Nesting.read, if_pos ⟨hquote, rfl⟩, decide_eq_false hbackslash]
    simp [inner, toggle, ← h]
  have hlast : Reads [quote] ⟨inner, false⟩ ⟨n, false⟩ :=
    .cons (fun hc ↦ hcomma hc.1) hclose (reads_nil _)
  exact .cons (fun hc ↦ hcomma hc.1) hopen ((hbody inner rfl).append hlast)

/-- A quoted text is balanced, whatever is quoted: its quotes and backslashes are escaped. -/
theorem balanced_quoted (text : List Char) : Balanced (Json.quoted text) :=
  balanced_literal (by decide) fun _ h ↦ Reads.flatMap (reads_escape h) text

/-- A balanced text after a name and a colon is balanced with them. -/
theorem balanced_member (name : List Char) {text : List Char} (h : Balanced text) :
    Balanced (Json.quoted name ++ ':' :: text) := by
  have hcolon : Balanced [':'] := balanced_of_forall (by simp [nestingMarks, quotes])
  exact (balanced_quoted name).append (hcolon.append h)

/-- Balanced texts with commas between them, after a character that opens an inner nesting and
before one that leads back from it. -/
theorem balanced_enclosed {first last : Char} {inner : Nesting → Nesting}
    (hfirst : first ≠ ',') (hopen : ∀ n : Nesting, n.Outside → n.read false first = inner n)
    (hinner : ∀ n : Nesting, n.Outside → (inner n).Outside ∧ (inner n).isTop = false)
    (hclose : ∀ n : Nesting, n.Outside → (inner n).read false last = n)
    (hplain : first ≠ '\\' ∧ last ≠ '\\') {texts : List (List Char)}
    (h : ∀ text ∈ texts, Balanced text) :
    Balanced (first :: [','].intercalate texts ++ [last]) := by
  intro n hn
  obtain ⟨houtside, htop⟩ := hinner n hn
  have hbegin : Cursor.next ⟨n, false⟩ first = ⟨inner n, false⟩ := by
    rw [Cursor.next, hopen n hn, decide_eq_false hplain.1]
    rfl
  have hend : Cursor.next ⟨inner n, false⟩ last = ⟨n, false⟩ := by
    rw [Cursor.next, hclose n hn, decide_eq_false hplain.2]
    rfl
  have hbody := Reads.intercalate htop fun text htext ↦ h text htext (inner n) houtside
  have hlast : Reads [last] ⟨inner n, false⟩ ⟨n, false⟩ :=
    .cons (by rw [htop]; simp) hend (reads_nil _)
  exact .cons (fun hc ↦ hfirst hc.1) hbegin (hbody.append hlast)

/-- Balanced texts make a balanced array. -/
theorem balanced_array {texts : List (List Char)} (h : ∀ text ∈ texts, Balanced text) :
    Balanced ('[' :: [','].intercalate texts ++ [']']) := by
  have hquote : '[' ∉ quotes ∧ ']' ∉ quotes := by decide
  refine @balanced_enclosed '[' ']' (fun n ↦ { n with brackets := n.brackets + 1 }) (by decide)
    ?_ ?_ ?_ (by decide) texts h
  · rintro n ⟨hinside, -, -⟩
    simp [Nesting.read, hquote, hinside]
  · rintro n ⟨hinside, hbraces, hbrackets⟩
    have hne : n.brackets + 1 ≠ 0 := by omega
    exact ⟨⟨hinside, hbraces, by simp only; omega⟩, by simp [Nesting.isTop, hne]⟩
  · rintro ⟨inside, braces, brackets⟩ ⟨hinside, -, -⟩
    simp only at hinside
    simp [Nesting.read, hquote, hinside]

/-- Balanced texts make a balanced object. -/
theorem balanced_object {texts : List (List Char)} (h : ∀ text ∈ texts, Balanced text) :
    Balanced ('{' :: [','].intercalate texts ++ ['}']) := by
  have hquote : '{' ∉ quotes ∧ '}' ∉ quotes := by decide
  refine @balanced_enclosed '{' '}' (fun n ↦ { n with braces := n.braces + 1 }) (by decide)
    ?_ ?_ ?_ (by decide) texts h
  · rintro n ⟨hinside, -, -⟩
    simp [Nesting.read, hquote, hinside]
  · rintro n ⟨hinside, hbraces, hbrackets⟩
    have hne : n.braces + 1 ≠ 0 := by omega
    exact ⟨⟨hinside, by simp only; omega, hbrackets⟩, by simp [Nesting.isTop, hne]⟩
  · rintro ⟨inside, braces, brackets⟩ ⟨hinside, -, -⟩
    simp only at hinside
    simp [Nesting.read, hquote, hinside]

end Script

end PluginRecovery
