import Mathlib
import PluginRecovery.Proofs.Pattern.Matching
import PluginRecovery.Proofs.Text.LetterCase

/-!
The texts that a pattern accepts, told by its parts: those of a sequence are cut in two
(`Accepts.of_append`), those of alternatives are of one of them (`Accepts.of_firstOf`), a literal
accepts its own text (`Accepts.of_literal`), in any case each letter in one of its cases
(`Accepts.of_anyCase`). With which character they all end can be told by the last part of a pattern
(`EndsWith`). A pattern without groups accepts what it captures (`accepts_of_capture?`).
-/

set_option autoImplicit false
set_option relaxedAutoImplicit false

namespace PluginRecovery.Pattern

open PluginRecovery.Text

variable {text : List Char}

/-! ### Parts of a pattern -/

theorem Accepts.of_empty (h : empty.Accepts text) : text = [] := by
  obtain ⟨start, before, stop, after, hmatches, hreads⟩ := h
  cases hmatches with
  | empty => exact hreads.text_eq.symm.trans (Cursor.Reads.refl start).text_eq

theorem Accepts.of_one {accepts : Char → Bool} (h : (one accepts).Accepts text) :
    ∃ c, accepts c = true ∧ text = [c] := by
  obtain ⟨start, before, stop, after, hmatches, hreads⟩ := h
  cases hmatches with
  | one hrest hc => exact ⟨_, hc, hreads.text_eq.symm.trans (Cursor.Reads.after hrest).text_eq⟩

/-- A sequence accepts one text behind another. -/
theorem Accepts.of_append {first second : Pattern} (h : (first ++ second).Accepts text) :
    ∃ front back, text = front ++ back ∧ first.Accepts front ∧ second.Accepts back := by
  obtain ⟨start, before, stop, after, hmatches, hreads⟩ := h
  obtain ⟨middle, kept, hfirst, hsecond⟩ := hmatches.of_append
  obtain ⟨front, hfront⟩ := hfirst.exists_reads
  obtain ⟨back, hback⟩ := hsecond.exists_reads
  have htext : text = front ++ back := hreads.text_eq.symm.trans (hfront.trans hback).text_eq
  exact ⟨front, back, htext, ⟨_, _, _, _, hfirst, hfront⟩, ⟨_, _, _, _, hsecond, hback⟩⟩

/-- An alternative accepts what one of its sides does. -/
theorem Accepts.of_alt {first second : Pattern} (h : (alt first second).Accepts text) :
    first.Accepts text ∨ second.Accepts text := by
  obtain ⟨start, before, stop, after, hmatches, hreads⟩ := h
  cases hmatches with
  | altFirst hfirst => exact .inl ⟨_, _, _, _, hfirst, hreads⟩
  | altSecond _ hsecond => exact .inr ⟨_, _, _, _, hsecond, hreads⟩

theorem Accepts.of_group {number : ℕ} {body : Pattern} (h : (group number body).Accepts text) :
    body.Accepts text := by
  obtain ⟨start, before, stop, after, hmatches, hreads⟩ := h
  cases hmatches with
  | group _ hbody => exact ⟨_, _, _, _, hbody, hreads⟩

/-! ### Built patterns -/

theorem Accepts.of_optional {p : Pattern} (h : (optional p).Accepts text) :
    p.Accepts text ∨ text = [] :=
  h.of_alt.imp_right Accepts.of_empty

/-- A row of single characters accepts the texts whose characters fit one by one. -/
theorem Accepts.of_foldr (fits : Char → Char → Bool) {letters : List Char}
    (h : (letters.foldr (fun c rest ↦ seq (one (fits c)) rest) empty).Accepts text) :
    List.Forall₂ (fun letter c ↦ fits letter c = true) letters text := by
  induction letters generalizing text with
  | nil =>
    obtain rfl := h.of_empty
    exact .nil
  | cons letter letters ih =>
    obtain ⟨front, back, rfl, hfront, hback⟩ := Accepts.of_append h
    obtain ⟨c, hc, rfl⟩ := hfront.of_one
    exact .cons hc (ih hback)

/-- Given characters accept themselves only. -/
theorem Accepts.of_literal {part : String} (h : (literal part).Accepts text) :
    text = part.toList := by
  have hletters := Accepts.of_foldr (fun letter c ↦ c == letter) h
  simp only [beq_iff_eq] at hletters
  exact List.forall₂_eq_eq_eq ▸ hletters.flip

/-- Each letter stands in one of its cases. -/
theorem Accepts.of_anyCase {part : String} (h : (anyCase part).Accepts text) :
    List.Forall₂ (fun letter c ↦ sameLetter letter c = true) part.toList text :=
  Accepts.of_foldr sameLetter h

theorem Accepts.of_firstOf {patterns : List Pattern} (h : (firstOf patterns).Accepts text) :
    ∃ p ∈ patterns, p.Accepts text := by
  induction patterns with
  | nil =>
    obtain ⟨c, hc, -⟩ := Accepts.of_one h
    exact absurd hc Bool.false_ne_true
  | cons p patterns ih =>
    cases patterns with
    | nil => exact ⟨p, List.mem_cons_self, h⟩
    | cons next patterns =>
      rcases Accepts.of_alt h with hp | hrest
      · exact ⟨p, List.mem_cons_self, hp⟩
      · obtain ⟨q, hq, haccepts⟩ := ih hrest
        exact ⟨q, List.mem_cons_of_mem p hq, haccepts⟩

/-! ### The last character -/

/-- All texts that the pattern accepts end with the character. -/
def EndsWith (p : Pattern) (last : Char) : Prop :=
  ∀ text, p.Accepts text → ∃ front, text = front ++ [last]

/-- A sequence ends as its second part does. -/
theorem EndsWith.append {second : Pattern} {last : Char} (h : second.EndsWith last)
    (first : Pattern) : (first ++ second).EndsWith last := by
  intro text haccepts
  obtain ⟨front, back, rfl, -, hback⟩ := haccepts.of_append
  obtain ⟨middle, rfl⟩ := h back hback
  exact ⟨front ++ middle, (List.append_assoc ..).symm⟩

theorem EndsWith.group {body : Pattern} {last : Char} (h : body.EndsWith last) (number : ℕ) :
    (group number body).EndsWith last :=
  fun text haccepts ↦ h text haccepts.of_group

theorem endsWith_literal {part : String} (front : List Char) {last : Char}
    (h : part.toList = front ++ [last]) : (literal part).EndsWith last :=
  fun _ haccepts ↦ ⟨front, haccepts.of_literal.trans h⟩

/-! ### White space and letter case -/

theorem blank_of_accepts_gap (h : gap.Accepts text) : blank text = true :=
  List.all_eq_true.mpr h.of_many.1

/-- A letter in another case is white space exactly when it is. -/
theorem isBlank_of_sameLetter {letter c : Char} (h : sameLetter letter c = true) :
    isBlank c = isBlank letter := by
  simp only [sameLetter, Bool.or_eq_true, Bool.and_eq_true, beq_iff_eq] at h
  rcases h with (hlower | ⟨hlower, rfl⟩) | ⟨hlower, rfl⟩
  · rw [← isBlank_toLower c, hlower, isBlank_toLower]
  · rw [← isBlank_toLower letter, hlower]
    decide
  · rw [← isBlank_toLower letter, hlower]
    decide

/-- Letter case makes no text blank. -/
theorem blank_of_accepts_anyCase {part : String} (h : (anyCase part).Accepts text) :
    blank text = blank part.toList := by
  have hletters := h.of_anyCase
  clear h
  generalize part.toList = letters at hletters ⊢
  induction hletters with
  | nil => rfl
  | cons hletter _ ih =>
    rw [blank, List.all_cons, isBlank_of_sameLetter hletter]
    exact congrArg _ ih

/-! ### Captures -/

@[simp] theorem keeps_append (first second : Pattern) :
    (first ++ second).keeps = first.keeps ++ second.keeps :=
  rfl

@[simp] theorem alwaysKeeps_append (number : ℕ) (first second : Pattern) :
    (first ++ second).alwaysKeeps number =
      (first.alwaysKeeps number || second.alwaysKeeps number) :=
  rfl

theorem keeps_foldr (fits : Char → Char → Bool) (letters : List Char) :
    (letters.foldr (fun c rest ↦ seq (one (fits c)) rest) empty).keeps = [] := by
  induction letters with
  | nil => rfl
  | cons letter letters ih => exact ih

@[simp] theorem keeps_literal (part : String) : (literal part).keeps = [] :=
  keeps_foldr _ part.toList

@[simp] theorem keeps_anyCase (part : String) : (anyCase part).keeps = [] :=
  keeps_foldr _ part.toList

/-- Words that are made into patterns without groups make alternatives without groups. -/
theorem keeps_firstOf_map {f : String → Pattern} (hf : ∀ word, (f word).keeps = [])
    (words : List String) : (firstOf (words.map f)).keeps = [] := by
  induction words with
  | nil => rfl
  | cons word words ih =>
    cases words with
    | nil => exact hf word
    | cons next words => exact List.append_eq_nil_iff.mpr ⟨hf word, ih⟩

/-- What a pattern without groups captures is its whole match. -/
theorem accepts_of_capture? {p : Pattern} {candidate : String} (hkeeps : p.keeps = [])
    (h : p.capture? text = some candidate) : p.Accepts candidate.toList := by
  obtain ⟨found, hfound, rfl⟩ := Option.map_eq_some_iff.mp h
  have hnone : found.group? 1 = none := by
    rw [Option.eq_none_iff_forall_not_mem]
    intro span hspan
    obtain ⟨body, hbody, -⟩ := exists_accepts_of_group? hfound hspan
    rw [hkeeps] at hbody
    exact List.not_mem_nil hbody
  rw [hnone, Option.getD_none, String.toList_ofList]
  exact (matches_of_searchFrom? hfound).accepts

end PluginRecovery.Pattern
