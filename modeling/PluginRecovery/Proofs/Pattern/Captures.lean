import Mathlib
import PluginRecovery.Proofs.Pattern.Placement

/-!
The texts that a pattern accepts, together with what it keeps of them. `Accepts` tells the text of a
match, and the groups one by one; `Captures` tells how the texts of the groups make up the text of
the match. It is told by the parts of a pattern too: those of a sequence are cut in two
(`Captures.of_append`), a group keeps what its body accepts (`Captures.of_group`), and a part
without groups keeps nothing (`Captures.of_keeps_nil`). So a pattern that is built from left to
right is taken apart from its end. A match is a part of the text that the pattern captures
(`Finds.exists_captures`).
-/

set_option autoImplicit false
set_option relaxedAutoImplicit false

namespace PluginRecovery.Pattern

open PluginRecovery.Text

/-- The texts of the groups, under their numbers. -/
def textsOf (groups : Groups) : List (ℕ × List Char) :=
  groups.map fun entry ↦ (entry.1, entry.2.text)

theorem lookup_textsOf (groups : Groups) (number : ℕ) :
    (textsOf groups).lookup number = (groups.lookup number).map Span.text := by
  induction groups with
  | nil => rfl
  | cons entry groups ih =>
    rw [textsOf, List.map_cons, List.lookup_cons, List.lookup_cons]
    cases number == entry.1 with
    | true => rfl
    | false => exact ih

/-- The text is read by the pattern in some place, and these are the texts of the groups that it
adds. -/
def Captures (p : Pattern) (text : List Char) (kept : List (ℕ × List Char)) : Prop :=
  ∃ start stop before added, p.Matches start before stop (added ++ before) ∧
    start.Reads text stop ∧ textsOf added = kept

variable {text : List Char} {kept : List (ℕ × List Char)}

/-- A pattern without groups adds none. -/
theorem Matches.groups_eq {p : Pattern} {start stop : Cursor} {before after : Groups}
    (h : p.Matches start before stop after) (hkeeps : p.keeps = []) : after = before := by
  induction h with
  | empty | one | lineStart | many | starStop => rfl
  | seq _ _ ihfirst ihsecond =>
    obtain ⟨hfirst, hsecond⟩ := List.append_eq_nil_iff.mp hkeeps
    exact (ihsecond hsecond).trans (ihfirst hfirst)
  | altFirst _ _ ih => exact ih (List.append_eq_nil_iff.mp hkeeps).1
  | altSecond _ _ ih => exact ih (List.append_eq_nil_iff.mp hkeeps).2
  | starStep _ _ ihbody ihrest => exact (ihrest hkeeps).trans (ihbody hkeeps)
  | group => exact absurd hkeeps (List.cons_ne_nil _ _)

/-- A last part without groups adds none. -/
theorem Matches.of_append_plain {first second : Pattern} {start stop : Cursor}
    {before after : Groups} (h : (first ++ second).Matches start before stop after)
    (hkeeps : second.keeps = []) : ∃ middle, first.Matches start before middle after := by
  obtain ⟨middle, kept, hfirst, hsecond⟩ := h.of_append
  obtain rfl := hsecond.groups_eq hkeeps
  exact ⟨middle, hfirst⟩

/-- A literal reads its own text. -/
theorem Matches.reads_literal {part : String} {start stop : Cursor} {before after : Groups}
    (h : (literal part).Matches start before stop after) : start.Reads part.toList stop := by
  obtain ⟨text, htext⟩ := h.exists_reads
  obtain rfl : text = part.toList := Accepts.of_literal ⟨_, _, _, _, h, htext⟩
  exact htext

/-- What a sequence captures is cut in two, the groups of the second part in front. -/
theorem Captures.of_append {first second : Pattern} (h : (first ++ second).Captures text kept) :
    ∃ front back keptFront keptBack, text = front ++ back ∧ kept = keptBack ++ keptFront ∧
      first.Captures front keptFront ∧ second.Captures back keptBack := by
  obtain ⟨start, stop, before, added, hmatches, hreads, rfl⟩ := h
  obtain ⟨middle, groups, hfirst, hsecond⟩ := hmatches.of_append
  obtain ⟨front, hfront⟩ := hfirst.exists_reads
  obtain ⟨back, hback⟩ := hsecond.exists_reads
  obtain ⟨addedFront, rfl⟩ := hfirst.isSuffix_groups
  obtain ⟨addedBack, hadded⟩ := hsecond.isSuffix_groups
  rw [← List.append_assoc] at hadded
  obtain rfl := List.append_cancel_right hadded
  rw [List.append_assoc] at hsecond
  refine ⟨front, back, textsOf addedFront, textsOf addedBack, ?_, ?_,
    ⟨_, _, _, _, hfirst, hfront, rfl⟩, ⟨_, _, _, _, hsecond, hback, rfl⟩⟩
  · exact hreads.text_eq.symm.trans (hfront.trans hback).text_eq
  · exact List.map_append

/-- A group captures the text that its body reads. -/
theorem Captures.of_group {number : ℕ} {body : Pattern}
    (h : (group number body).Captures text kept) :
    ∃ inner, kept = (number, text) :: inner ∧ body.Captures text inner := by
  obtain ⟨start, stop, before, added, hmatches, hreads, rfl⟩ := h
  generalize hafter : added ++ before = after at hmatches
  cases hmatches with
  | group _ hbody =>
    obtain ⟨inner, rfl⟩ := hbody.isSuffix_groups
    rw [← List.cons_append] at hafter
    obtain rfl := List.append_cancel_right hafter
    refine ⟨textsOf inner, ?_, _, _, _, _, hbody, hreads, rfl⟩
    rw [← hreads.text_eq]
    rfl

/-- Without groups nothing is captured, and the text is just accepted. -/
theorem Captures.of_keeps_nil {p : Pattern} (h : p.Captures text kept) (hkeeps : p.keeps = []) :
    kept = [] ∧ p.Accepts text := by
  obtain ⟨start, stop, before, added, hmatches, hreads, rfl⟩ := h
  have hadded : added = [] := List.append_left_eq_self.mp (hmatches.groups_eq hkeeps)
  exact ⟨by rw [hadded]; rfl, _, _, _, _, hmatches, hreads⟩

/-! ### Patterns that are built from left to right -/

/-- A last part without groups reads the end of the text, and keeps nothing of it. -/
theorem Captures.of_append_plain {first second : Pattern}
    (h : (first ++ second).Captures text kept) (hkeeps : second.keeps = []) :
    ∃ front back, text = front ++ back ∧ first.Captures front kept ∧ second.Accepts back := by
  obtain ⟨front, back, keptFront, keptBack, rfl, rfl, hfirst, hsecond⟩ := h.of_append
  obtain ⟨rfl, haccepts⟩ := hsecond.of_keeps_nil hkeeps
  exact ⟨front, back, rfl, hfirst, haccepts⟩

/-- A text that ends as the pattern says is captured up to that end. -/
theorem Captures.of_append_literal {first : Pattern} {part : String}
    (h : (first ++ literal part).Captures text kept) :
    ∃ front, text = front ++ part.toList ∧ first.Captures front kept := by
  obtain ⟨front, back, rfl, hfirst, haccepts⟩ := h.of_append_plain (keeps_literal part)
  obtain rfl := haccepts.of_literal
  exact ⟨front, rfl, hfirst⟩

/-- A last group without groups in it keeps the end of the text, in front of all else. -/
theorem Captures.of_append_group {first body : Pattern} {number : ℕ}
    (h : (first ++ group number body).Captures text kept) (hkeeps : body.keeps = []) :
    ∃ front back inner, text = front ++ back ∧ kept = (number, back) :: inner ∧
      first.Captures front inner ∧ body.Accepts back := by
  obtain ⟨front, back, keptFront, keptBack, rfl, rfl, hfirst, hsecond⟩ := h.of_append
  obtain ⟨inner, rfl, hbody⟩ := hsecond.of_group
  obtain ⟨rfl, haccepts⟩ := hbody.of_keeps_nil hkeeps
  exact ⟨front, back, keptFront, rfl, rfl, hfirst, haccepts⟩

/-! ### Matches in a text -/

/-- A match is a part of the text that the pattern captures with the texts of the groups. -/
theorem Finds.exists_captures {p : Pattern} {found : Match} (h : p.Finds text found) :
    ∃ front whole back kept, text = front ++ whole ++ back ∧ p.Captures whole kept ∧
      ∀ number, found.groupText number = (kept.lookup number).getD [] := by
  obtain ⟨front, hfront⟩ := h.reads
  obtain ⟨whole, hwhole⟩ := h.isMatch.exists_reads
  refine ⟨front, whole, found.whole.stop.rest, textsOf found.groups, (hfront.trans hwhole).1,
    ⟨_, _, [], found.groups, ?_, hwhole, rfl⟩, fun number ↦ ?_⟩
  · rw [List.append_nil]
    exact h.isMatch
  · rw [lookup_textsOf]
    rfl

end PluginRecovery.Pattern
