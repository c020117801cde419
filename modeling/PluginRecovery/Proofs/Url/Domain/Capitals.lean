import Mathlib
import PluginRecovery.Proofs.Text.LetterCase
import PluginRecovery.Url.Domain

/-!
Names of hosts have no capital letters of ASCII: no character stands for one
(`isUpper_of_mem_formOf?`), and none comes out of the composition of characters
(`isUpper_of_mem_compose`). Both come down to facts about the tables, which are checked line by
line.
-/

set_option autoImplicit false
set_option relaxedAutoImplicit false

namespace PluginRecovery.Domain

open PluginRecovery.Text

theorem isUpper_iff {c : Char} : c.isUpper = true ↔ 65 ≤ c.toNat ∧ c.toNat ≤ 90 := by
  simp [Char.isUpper, UInt32.le_iff_toNat_le, ← Char.toNat_val]

/-- A code point that is no capital letter of ASCII names no such letter. -/
theorem isUpper_ofNat {n : ℕ} (h : n < 65 ∨ 90 < n) : (Char.ofNat n).isUpper = false := by
  rw [← Bool.not_eq_true, isUpper_iff]
  rcases toNat_ofNat_eq_or n with hn | hn <;> omega

theorem isUpper_of_le {c : Char} (h : 128 ≤ c.toNat) : c.isUpper = false := by
  rw [← Char.ofNat_toNat c]
  exact isUpper_ofNat (by omega)

/-! ### Tables in lines -/

/-- The characters of lines. Unification finds them for literals; to decode the bytes of a literal
takes the kernel seconds. -/
inductive Spelled : List String → List (List Char) → Prop
  | nil : Spelled [] []
  | cons {text : List Char} {lines : List String} {texts : List (List Char)}
    (h : Spelled lines texts) : Spelled (String.ofList text :: lines) (text :: texts)

theorem Spelled.forall_mem {lines : List String} {texts : List (List Char)} {p : List Char → Bool}
    (h : Spelled lines texts) (htexts : texts.all p = true) :
    ∀ line ∈ lines, p line.toList = true := by
  induction h with
  | nil => exact List.forall_mem_nil _
  | cons h ih =>
    rw [List.all_cons, Bool.and_eq_true] at htexts
    rw [List.forall_mem_cons, String.toList_ofList]
    exact ⟨htexts.1, ih htexts.2⟩

theorem mem_entriesOf {lines : List String} {entry : List Char × List Char}
    (h : entry ∈ entriesOf lines) :
    ∃ line ∈ lines, ∃ part ∈ line.toList.splitOn ' ', entryOf part = entry := by
  obtain ⟨line, hline, hentry⟩ := List.mem_flatMap.mp h
  exact ⟨line, hline, List.mem_map.mp hentry⟩

/-! ### Forms -/

/-- No form of a character of the range has a capital letter. -/
def FormRange.avoidsCapitals (range : FormRange) : Bool :=
  range.form.all fun c ↦ 90 < c.toNat || c.toNat + (range.last - range.first) < 65

/-- Whether the ranges of a line avoid capital letters. The bounds of a range, which take long to
read, only matter for forms with small code points. -/
def lineAvoidsCapitals (line : List Char) : Bool :=
  (line.splitOn ' ').all fun part ↦
    (charactersOf ((part.dropWhile (· != '=')).drop 1)).all (90 < ·.toNat) ||
      (FormRange.ofEntry (entryOf part)).avoidsCapitals

/-- No line of the table of forms leads to a capital. -/
theorem lineAvoidsCapitals_of_mem_formLines :
    ∀ line ∈ formLines, lineAvoidsCapitals line.toList = true := by
  apply Spelled.forall_mem
  case h =>
    dsimp only [formLines]
    repeat apply Spelled.cons
    exact Spelled.nil
  case htexts => decide +kernel

theorem drop_length_takeWhile (p : Char → Bool) (part : List Char) :
    part.drop ((part.takeWhile p).length + 1) = (part.dropWhile p).drop 1 := by
  have hdrop : part.drop (part.takeWhile p).length = part.dropWhile p := by
    conv_lhs => enter [2]; rw [← List.takeWhile_append_dropWhile (p := p) (l := part)]
    exact List.drop_left
  rw [← hdrop, List.drop_drop]

theorem avoidsCapitals_of_mem_formRanges {range : FormRange} (h : range ∈ formRanges) :
    range.avoidsCapitals = true := by
  rw [formRanges, List.mem_toArray, List.mem_map] at h
  obtain ⟨entry, hentry, rfl⟩ := h
  obtain ⟨line, hline, part, hpart, rfl⟩ := mem_entriesOf hentry
  have hpart := List.all_eq_true.mp (lineAvoidsCapitals_of_mem_formLines line hline) part hpart
  rcases Bool.or_eq_true _ _ ▸ hpart with hform | hrange
  · have heq : (FormRange.ofEntry (entryOf part)).form =
        charactersOf ((part.dropWhile (· != '=')).drop 1) :=
      congrArg charactersOf (drop_length_takeWhile _ part)
    rw [FormRange.avoidsCapitals, heq]
    exact List.all_eq_true.mpr fun c hc ↦ by simp_all
  · exact hrange

/-- No form of a range has a capital. -/
theorem isUpper_of_mem_rangeForm {range : FormRange} (h : range ∈ formRanges) {n : ℕ}
    {form : List Char} (hform : range.formOf? n = some form) : ∀ d ∈ form, d.isUpper = false := by
  rw [FormRange.formOf?] at hform
  split_ifs at hform with hrange
  obtain rfl := Option.some.inj hform
  rw [List.forall_mem_map]
  intro c hc
  have hc := List.all_eq_true.mp (avoidsCapitals_of_mem_formRanges h) c hc
  simp only [Bool.or_eq_true, decide_eq_true_eq] at hc hrange
  exact isUpper_ofNat (by omega)

/-- No character stands for a capital letter of ASCII. -/
theorem isUpper_of_mem_formOf? {c : Char} {form : List Char} (h : formOf? c = some form) :
    ∀ d ∈ form, d.isUpper = false := by
  rw [formOf?] at h
  split_ifs at h with hascii hwritable
  · obtain rfl := Option.some.inj h
    rw [List.forall_mem_singleton]
    exact forall_of_ofNat (P := fun c ↦ c.toLower.isUpper = false) (by decide) hascii
  · obtain rfl := Option.some.inj h
    have hself : ∀ d ∈ [c], d.isUpper = false :=
      List.forall_mem_singleton.mpr (isUpper_of_le (by omega))
    split
    · exact hself
    · next place _ =>
      cases hrange : formRanges[place]? with
      | none => exact hself
      | some range =>
        cases hform : range.formOf? c.toNat with
        | none => simpa [hform] using hself
        | some form =>
          rw [Option.bind_some, hform, Option.getD_some]
          exact isUpper_of_mem_rangeForm (Array.mem_of_getElem? hrange) hform

/-! ### Compositions -/

/-- Whether neither the composed characters of a line nor their parts are capital letters. -/
def partsAvoidCapitals (line : List Char) : Bool :=
  (line.splitOn ' ').all fun part ↦
    90 < codeOf (part.takeWhile (· != '=')) &&
      (charactersOf ((part.dropWhile (· != '=')).drop 1)).all fun c ↦ !c.isUpper

theorem partsAvoidCapitals_of_mem_compositionLines :
    ∀ line ∈ compositionLines, partsAvoidCapitals line.toList = true := by
  apply Spelled.forall_mem
  case h =>
    dsimp only [compositionLines]
    repeat apply Spelled.cons
    exact Spelled.nil
  case htexts => decide +kernel

/-- No composition has a capital, whole or in parts. -/
theorem isUpper_of_mem_compositions {whole first second : Char}
    (h : (whole, first, second) ∈ compositions) :
    whole.isUpper = false ∧ first.isUpper = false ∧ second.isUpper = false := by
  obtain ⟨⟨key, parts⟩, hentry, hparts⟩ := List.mem_filterMap.mp h
  obtain ⟨line, hline, part, hpart, hof⟩ := mem_entriesOf hentry
  have hpart :=
    List.all_eq_true.mp (partsAvoidCapitals_of_mem_compositionLines line hline) part hpart
  rw [entryOf, drop_length_takeWhile, Prod.mk.injEq] at hof
  obtain ⟨rfl, rfl⟩ := hof
  rw [Bool.and_eq_true, decide_eq_true_eq, List.all_eq_true] at hpart
  dsimp only at hparts
  split at hparts
  · next first' second' hcharacters =>
    simp only [Option.some.injEq, Prod.mk.injEq] at hparts
    obtain ⟨rfl, rfl, rfl⟩ := hparts
    rw [hcharacters] at hpart
    simp only [List.forall_mem_cons, Bool.not_eq_true'] at hpart
    exact ⟨isUpper_ofNat (.inr hpart.1), hpart.2.1, hpart.2.2.1⟩
  · exact absurd hparts (by simp)

theorem isUpper_of_parts? {c first second : Char} (h : parts? c = some (first, second)) :
    first.isUpper = false ∧ second.isUpper = false := by
  rw [parts?] at h
  split at h
  · next parts hparts =>
    obtain rfl := Option.some.inj h
    rw [syllableParts?] at hparts
    split at hparts
    · next hrange =>
      rw [Bool.and_eq_true, decide_eq_true_eq, decide_eq_true_eq] at hrange
      dsimp only at hparts
      split at hparts
      all_goals
        simp only [Option.some.injEq, Prod.mk.injEq] at hparts
        obtain ⟨rfl, rfl⟩ := hparts
        exact ⟨isUpper_ofNat (.inr (by omega)), isUpper_ofNat (.inr (by omega))⟩
    · exact absurd hparts (by simp)
  · have hentry : (c, first, second) ∈ compositions := Dictionary.mem_of_lookup h
    exact (isUpper_of_mem_compositions hentry).2

theorem isUpper_of_whole? {a b c : Char} (h : whole? a b = some c) : c.isUpper = false := by
  rw [whole?] at h
  split at h
  · next whole hwhole =>
    obtain rfl := Option.some.inj h
    rw [syllable?] at hwhole
    split_ifs at hwhole with hfirst hsecond
    · obtain rfl := Option.some.inj hwhole
      exact isUpper_ofNat (.inr (by omega))
    · obtain rfl := Option.some.inj hwhole
      simp only [Bool.and_eq_true, decide_eq_true_eq] at hsecond
      exact isUpper_ofNat (.inr (by omega))
  · obtain ⟨⟨whole, first, second⟩, hfind, rfl⟩ := Option.map_eq_some_iff.mp h
    exact (isUpper_of_mem_compositions (List.mem_of_find?_eq_some hfind)).1

/-- Taking apart what is no capital makes none. -/
theorem isUpper_of_mem_takeApart {depth : ℕ} {c : Char} (h : c.isUpper = false) :
    ∀ d ∈ takeApart depth c, d.isUpper = false := by
  induction depth generalizing c with
  | zero => exact List.forall_mem_singleton.mpr h
  | succ depth ih =>
    rw [takeApart]
    split
    · next first second hparts =>
      obtain ⟨hfirst, hsecond⟩ := isUpper_of_parts? hparts
      exact List.forall_mem_append.mpr ⟨ih hfirst, List.forall_mem_singleton.mpr hsecond⟩
    · exact List.forall_mem_singleton.mpr h

theorem mem_insertMark {mark c : Char} {marks : List Char} :
    c ∈ insertMark mark marks ↔ c = mark ∨ c ∈ marks := by
  induction marks with
  | nil => simp [insertMark]
  | cons other marks ih =>
    rw [insertMark]
    split_ifs
    · rw [List.mem_cons, ih, List.mem_cons]
      exact or_left_comm
    · exact List.mem_cons

namespace Cluster

variable {s : Cluster} {c : Char}

theorem mem_reversed_mk {done marks : List Char} {letter : Option Char} :
    c ∈ (mk done letter marks).reversed ↔ c ∈ marks ∨ c ∈ letter ∨ c ∈ done := by
  simp [reversed]

/-- Arranging the marks of a letter makes no capital. -/
theorem isUpper_arrange (hs : ∀ d ∈ s.reversed, d.isUpper = false) (hc : c.isUpper = false) :
    ∀ d ∈ (s.arrange c).reversed, d.isUpper = false := by
  intro d hd
  have hmem : d = c ∨ d ∈ s.reversed := by
    rw [arrange] at hd
    by_cases hclass : combiningClass c = 0
    · rw [if_pos hclass] at hd
      exact List.mem_cons.mp hd
    · rw [if_neg hclass, mem_reversed_mk, mem_insertMark, or_assoc] at hd
      exact hd.imp_right mem_reversed_mk.mpr
  exact hmem.elim (· ▸ hc) (hs d)

/-- Joining the letters again makes no capital. -/
theorem isUpper_join (hs : ∀ d ∈ s.reversed, d.isUpper = false) (hc : c.isUpper = false) :
    ∀ d ∈ (s.join c).reversed, d.isUpper = false := by
  intro d hd
  rw [join] at hd
  split at hd
  · next whole hwhole =>
    obtain ⟨letter, hletter, hwhole⟩ := Option.bind_eq_some_iff.mp hwhole
    split_ifs at hwhole
    have hmem : d = whole ∨ d ∈ s.reversed := by
      rw [mem_reversed_mk, Option.mem_some] at hd
      exact or_iff_not_imp_left.mpr fun hne ↦
        mem_reversed_mk.mpr (hd.imp_right fun hd ↦ .inr (hd.resolve_left (Ne.symm hne)))
    exact hmem.elim (· ▸ isUpper_of_whole? hwhole) (hs d)
  · have hmem : d = c ∨ d ∈ s.reversed := by
      split_ifs at hd
      · exact List.mem_cons.mp hd
      · rw [mem_reversed_mk, List.mem_cons, or_assoc] at hd
        exact hd.imp_right mem_reversed_mk.mpr
    exact hmem.elim (· ▸ hc) (hs d)

end Cluster

/-- No capital letter of ASCII comes out of a composition. -/
theorem isUpper_of_mem_compose {text : List Char} (h : ∀ c ∈ text, c.isUpper = false) :
    ∀ c ∈ compose text, c.isUpper = false := by
  have hfold (step : Cluster → Char → Cluster)
      (hstep : ∀ s c, (∀ d ∈ s.reversed, d.isUpper = false) → c.isUpper = false →
        ∀ d ∈ (step s c).reversed, d.isUpper = false)
      (chars : List Char) (hchars : ∀ c ∈ chars, c.isUpper = false) :
      ∀ d ∈ (chars.foldl step {}).reversed.reverse, d.isUpper = false := by
    simp only [List.mem_reverse]
    refine List.foldlRecOn chars step (motive := fun s ↦ ∀ d ∈ s.reversed, d.isUpper = false)
      ?_ fun s hs c hc ↦ hstep s c hs (hchars c hc)
    exact List.forall_mem_nil _
  rw [compose]
  split_ifs
  · exact h
  · refine hfold _ (fun s c ↦ Cluster.isUpper_join) _
      (hfold _ (fun s c ↦ Cluster.isUpper_arrange) _ ?_)
    intro d hd
    obtain ⟨c, hc, hd⟩ := List.mem_flatMap.mp hd
    exact isUpper_of_mem_takeApart (h c hc) d hd

end PluginRecovery.Domain
