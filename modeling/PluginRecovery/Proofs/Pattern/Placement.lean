import Mathlib
import PluginRecovery.Proofs.Pattern.Language

/-!
Where a match stands. A match that a search finds, the first or one of all, is a match of the
pattern at a place of the text (`finds_of_search?`, `finds_of_mem_searchAll`). The text before it,
the match and the text after it make up the text that is searched, and the offsets of the match are
the sizes of what comes before its ends (`Finds.exists_whole`). Each group that the match keeps is a
part of it, and so of the text (`exists_part_of_group?`).
-/

set_option autoImplicit false
set_option relaxedAutoImplicit false

namespace PluginRecovery.Pattern

open PluginRecovery.Text

/-- The match of a search begins behind some of the text. -/
theorem exists_reads_of_searchFrom? {p : Pattern} {before : Option Char} {offset : ℕ}
    {text : List Char} {found : Match} (h : p.searchFrom? before offset text = some found) :
    ∃ front, Cursor.Reads ⟨before, text, offset⟩ front found.whole.start := by
  obtain ⟨front, at_, hfront, hfound⟩ := exists_matchAt?_of_searchFrom? h
  exact ⟨front, (matches_of_matchAt? hfound).1 ▸ hfront⟩

/-- The match is one of the pattern, behind some of the text that a place is followed by. -/
structure FindsFrom (p : Pattern) (at_ : Cursor) (found : Match) : Prop where
  reads : ∃ front, at_.Reads front found.whole.start
  isMatch : p.Matches found.whole.start [] found.whole.stop found.groups

/-- The match is one of the pattern in the text. -/
def Finds (p : Pattern) (text : List Char) (found : Match) : Prop :=
  p.FindsFrom (Cursor.start text) found

theorem findsFrom_of_searchFrom? {p : Pattern} {at_ : Cursor} {found : Match}
    (h : p.searchFrom? at_.before at_.offset at_.rest = some found) : p.FindsFrom at_ found :=
  ⟨exists_reads_of_searchFrom? h, matches_of_searchFrom? h⟩

/-- The leftmost match stands in the text. -/
theorem finds_of_search? {p : Pattern} {text : List Char} {found : Match}
    (h : p.search? text = some found) : p.Finds text found :=
  findsFrom_of_searchFrom? h

/-- What is found behind an earlier match is found behind the place of the first search. -/
theorem FindsFrom.trans {p : Pattern} {at_ : Cursor} {first found : Match}
    (hfirst : p.FindsFrom at_ first) (h : p.FindsFrom first.whole.stop found) :
    p.FindsFrom at_ found := by
  obtain ⟨front, hfront⟩ := hfirst.reads
  obtain ⟨whole, hwhole⟩ := hfirst.isMatch.exists_reads
  obtain ⟨middle, hmiddle⟩ := h.reads
  exact ⟨⟨_, (hfront.trans hwhole).trans hmiddle⟩, h.isMatch⟩

theorem findsFrom_of_mem_searchAllFrom {p : Pattern} {bound : List Char} {at_ : Cursor}
    {found : Match} (h : found ∈ p.searchAllFrom bound at_) : p.FindsFrom at_ found := by
  induction bound generalizing at_ with
  | nil => exact absurd h List.not_mem_nil
  | cons c bound ih =>
    rw [searchAllFrom] at h
    cases hfirst : p.searchFrom? at_.before at_.offset at_.rest with
    | none => simp [hfirst] at h
    | some first =>
      simp only [hfirst] at h
      have hfinds := findsFrom_of_searchFrom? hfirst
      rcases List.mem_cons.mp h with rfl | hlater
      · exact hfinds
      · exact hfinds.trans (ih hlater)

/-- So does each of all matches. -/
theorem finds_of_mem_searchAll {p : Pattern} {text : List Char} {found : Match}
    (h : found ∈ p.searchAll text) : p.Finds text found :=
  findsFrom_of_mem_searchAllFrom h

/-- The parts of a searched text: before the match, the match, and after it. -/
theorem Finds.exists_whole {p : Pattern} {text : List Char} {found : Match}
    (h : p.Finds text found) :
    ∃ front whole back, text = front ++ whole ++ back ∧ p.Accepts whole ∧
      found.whole.start.offset = size front ∧ found.whole.stop.offset = size (front ++ whole) := by
  obtain ⟨front, hfront⟩ := h.reads
  obtain ⟨whole, hwhole⟩ := h.isMatch.exists_reads
  have hstart : found.whole.start.offset = size front := hfront.2.trans (Nat.zero_add _)
  have hstop : found.whole.stop.offset = size (front ++ whole) :=
    (hfront.trans hwhole).2.trans (Nat.zero_add _)
  exact ⟨front, whole, found.whole.stop.rest, (hfront.trans hwhole).1,
    ⟨_, _, _, _, h.isMatch, hwhole⟩, hstart, hstop⟩

/-- When all that the pattern accepts ends with a character, a match ends with it. -/
theorem Finds.exists_last {p : Pattern} {last : Char} {text : List Char} {found : Match}
    (h : p.Finds text found) (hlast : p.EndsWith last) :
    ∃ front middle back, text = front ++ middle ++ last :: back ∧
      found.whole.start.offset = size front ∧
      found.whole.stop.offset = size (front ++ middle) + last.utf8Size := by
  obtain ⟨front, whole, back, htext, haccepts, hstart, hstop⟩ := h.exists_whole
  obtain ⟨middle, rfl⟩ := hlast whole haccepts
  refine ⟨front, middle, back, by simpa using htext, hstart, ?_⟩
  rw [hstop, ← List.append_assoc, size_append]
  rfl

/-! ### Groups -/

/-- The part is read between the two places. -/
def Within (span : Span) (start stop : Cursor) : Prop :=
  ∃ front back, start.Reads front span.start ∧ span.start.Reads span.text span.stop ∧
    span.stop.Reads back stop

/-- A part within two places is within places further out. -/
theorem Within.extend {span : Span} {start stop start' stop' : Cursor} {front back : List Char}
    (h : Within span start stop) (hfront : start'.Reads front start)
    (hback : stop.Reads back stop') : Within span start' stop' := by
  obtain ⟨before, after, hbefore, hspan, hafter⟩ := h
  exact ⟨front ++ before, after ++ back, hfront.trans hbefore, hspan, hafter.trans hback⟩

/-- Each group that a match adds is read within the match. -/
theorem Matches.within_of_mem_groups {p : Pattern} {start stop : Cursor} {before after : Groups}
    (h : p.Matches start before stop after) {entry : ℕ × Span} (hentry : entry ∈ after) :
    entry ∈ before ∨ Within entry.2 start stop := by
  induction h with
  | empty | one | lineStart | many | starStop => exact .inl hentry
  | seq hfirst hsecond ihfirst ihsecond | starStep hfirst hsecond ihfirst ihsecond =>
    obtain ⟨front, hfront⟩ := hfirst.exists_reads
    obtain ⟨back, hback⟩ := hsecond.exists_reads
    rcases ihsecond hentry with hkept | hwithin
    · exact (ihfirst hkept).imp_right fun h ↦ h.extend (.refl _) hback
    · exact .inr (hwithin.extend hfront (.refl _))
  | altFirst _ _ ih | altSecond _ _ ih => exact ih hentry
  | @group body start stop before kept number hbody ih =>
    rcases List.mem_cons.mp hentry with rfl | hkept
    · obtain ⟨text, htext⟩ := hbody.exists_reads
      refine .inr ⟨[], [], .refl _, ?_, .refl _⟩
      rwa [htext.text_eq]
    · exact ih hkept

/-- The text of a group is a part of the searched text, and begins at the group's offset. -/
theorem exists_part_of_group? {p : Pattern} {text : List Char} {found : Match} {number : ℕ}
    {span : Span} (h : p.search? text = some found) (hspan : found.group? number = some span) :
    ∃ front back, text = front ++ span.text ++ back ∧ span.start.offset = size front := by
  obtain ⟨⟨outer, houter⟩, hmatches⟩ := finds_of_search? h
  rcases hmatches.within_of_mem_groups (Dictionary.mem_of_lookup hspan) with hnil | hwithin
  · exact absurd hnil List.not_mem_nil
  · obtain ⟨front, back, hfront, hpart, -⟩ := hwithin.extend houter (.refl _)
    refine ⟨front, span.stop.rest, (hfront.trans hpart).1, ?_⟩
    exact hfront.2.trans (Nat.zero_add _)

end PluginRecovery.Pattern
