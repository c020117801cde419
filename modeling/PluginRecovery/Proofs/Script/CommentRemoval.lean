import Mathlib
import PluginRecovery.Proofs.Script.CommentScan
import PluginRecovery.Script.Plugin

/-!
What the removal of comments keeps, for every text, also where a literal, a regular expression or a
comment has no end. `stripComments_stripComments` says that a second removal changes nothing, and so
a script and its text without comments are parsed alike. `stripComments_lines` says that every line
stays where it is and only loses bytes, up to the last character, which may be U+FFFD in the place
of a character that a block comment without an end has cut.
-/

set_option autoImplicit false
set_option relaxedAutoImplicit false

namespace PluginRecovery.Script

open PluginRecovery.Text

/-! ### A second removal -/

/-- The place in which a second scan stands where the first one stands in a given place: it sees no
comments. -/
def Place.again : Place → Place
  | .lineComment => .code
  | .blockComment => .code
  | place => place

theorem Place.IsOpen.again_eq {place : Place} (h : place.IsOpen) : place.again = place := by
  cases place with
  | lineComment => exact h.elim
  | blockComment => exact h.elim
  | _ => rfl

theorem Enclosure.again_after (enclosure : Enclosure) (escaped : Bool) (c : Char) :
    (enclosure.after escaped c).again = enclosure.after escaped c := by
  cases enclosure <;> simp only [Enclosure.after, Enclosure.afterPlain] <;> split_ifs <;> rfl

/-- A newline outside comments and literals is kept, and the text goes on as code. -/
theorem kept_code_newline (before rest : List Char) :
    kept .code before ('\n' :: rest) = '\n' :: kept .code (before ++ ['\n']) rest := by
  rw [kept_code_cons fun h ↦ absurd h (by decide)]
  rfl

/-- A slash that begins no comment is followed in the output by what follows it in the text. -/
theorem head?_kept_afterCode_slash {before rest : List Char}
    (hline : ∀ tail, rest = '/' :: tail → False) :
    (kept (Place.afterCode before '/') (before ++ ['/']) rest).head? = rest.head? := by
  rw [Place.afterCode_slash]
  cases rest with
  | nil => rw [kept_nil]
  | cons c rest =>
    have hc : c ≠ '/' := by
      rintro rfl
      exact hline rest rfl
    by_cases hregex : RegexMayFollow before
    · rw [if_pos hregex, kept_inside_cons]
      rfl
    · rw [if_neg hregex, kept_code_cons fun h ↦ absurd h hc]
      rfl

/-- The scan leaves all of what it has left. -/
theorem kept_again_kept (place : Place) (before rest : List Char) :
    kept place.again before (kept place before rest) = kept place before rest := by
  -- A comment in the text is nothing in the output, so the second scan stays in code there.
  fun_induction kept place before rest with
  | case1 place before => cases place <;> rfl
  | case2 before rest ih => exact ih
  | case3 before rest ih => exact ih
  | case4 before c rest hline hblock ih =>
    rw [(Place.isOpen_afterCode before c).again_eq] at ih
    refine (kept_code_cons fun hc ↦ ?_).trans (congrArg (c :: ·) ih)
    subst c
    rw [head?_kept_afterCode_slash fun tail ↦ hline tail rfl]
    constructor
    · exact fun hnext ↦ hline _ rfl (List.eq_cons_of_mem_head? hnext)
    · exact fun hnext ↦ hblock _ rfl (List.eq_cons_of_mem_head? hnext)
  | case5 enclosure escaped before c rest ih =>
    rw [Enclosure.again_after] at ih
    exact (kept_inside_cons enclosure escaped before c _).trans (congrArg (c :: ·) ih)
  | case6 before rest ih => exact (kept_code_newline before _).trans (congrArg ('\n' :: ·) ih)
  | case7 before c rest hnewline ih => exact ih
  | case8 before c =>
    have hcode := @kept_code_cons before [] (lastByteRead c) (by simp)
    rwa [kept_nil] at hcode
  | case9 before rest ih => exact ih
  | case10 before rest hrest hclose ih =>
    exact (kept_code_newline before _).trans (congrArg ('\n' :: ·) ih)
  | case11 before c rest hrest hclose hnewline ih => exact ih

/-- A second removal of comments changes nothing, and a script is parsed as it is without its
comments: in metadata, functions with their offsets, class properties and recorded events. -/
theorem stripComments_stripComments (text : List Char) :
    stripComments (stripComments text) = stripComments text ∧
      Plugin.parse (stripComments text) = Plugin.parse text := by
  have hstrip : stripComments (stripComments text) = stripComments text := by
    rw [stripComments_eq_kept (stripComments text), stripComments_eq_kept text]
    exact kept_again_kept .code [] text
  refine ⟨hstrip, ?_⟩
  rw [Plugin.parse, Plugin.parse, hstrip]

/-! ### Lines -/

theorem forall₂_sublist_modifyHead {parts lines : List (List Char)} {f g : List Char → List Char}
    (hfg : ∀ part line, part.Sublist line → (f part).Sublist (g line))
    (h : List.Forall₂ List.Sublist parts lines) :
    List.Forall₂ List.Sublist (parts.modifyHead f) (lines.modifyHead g) := by
  cases h with
  | nil => exact .nil
  | cons hline hlines => exact .cons (hfg _ _ hline) hlines

/-- Each line of a part that has all newlines is a part of the line in its place. -/
theorem forall₂_splitOn_sublist {part text : List Char} (h : part.Sublist text)
    (hcount : part.count '\n' = text.count '\n') :
    List.Forall₂ List.Sublist (part.splitOn '\n') (text.splitOn '\n') := by
  induction h with
  | slnil => exact .cons .slnil .nil
  | @cons part text c h ih =>
    have hle := h.count_le '\n'
    have hc : c ≠ '\n' := by
      rintro rfl
      rw [List.count_cons_self] at hcount
      omega
    rw [List.count_cons_of_ne hc] at hcount
    have hlines := forall₂_sublist_modifyHead (f := id) (g := (c :: ·))
      (fun _ _ hline ↦ hline.cons c) (ih hcount)
    rw [List.modifyHead_id] at hlines
    simpa [List.splitOn_cons_eq_if_modifyHead, hc] using hlines
  | @cons_cons part text c h ih =>
    rw [List.count_cons, List.count_cons, Nat.add_right_cancel_iff] at hcount
    rw [List.splitOn_cons_eq_if_modifyHead, List.splitOn_cons_eq_if_modifyHead]
    by_cases hc : (c == '\n') = true
    · rw [if_pos hc, if_pos hc]
      exact .cons .slnil (ih hcount)
    · rw [if_neg hc, if_neg hc]
      exact forall₂_sublist_modifyHead (fun _ _ hline ↦ hline.cons_cons c) (ih hcount)

/-- What may be left of a text without any newline lost: some of its characters, with U+FFFD after
them where the last one is cut. -/
def LeftOf (left text : List Char) : Prop :=
  ∃ front, (left = front ∨ left = front ++ [replacement]) ∧ front.Sublist text ∧
    front.count '\n' = text.count '\n'

theorem LeftOf.copy {left text : List Char} (c : Char) (h : LeftOf left text) :
    LeftOf (c :: left) (c :: text) := by
  obtain ⟨front, hleft, hsublist, hcount⟩ := h
  refine ⟨c :: front, ?_, hsublist.cons_cons c, ?_⟩
  · rcases hleft with rfl | rfl
    · exact Or.inl rfl
    · exact Or.inr rfl
  · rw [List.count_cons, List.count_cons, hcount]

/-- Any character but a newline may be left out. -/
theorem LeftOf.drop {left text : List Char} {c : Char} (hc : c ≠ '\n') (h : LeftOf left text) :
    LeftOf left (c :: text) := by
  obtain ⟨front, hleft, hsublist, hcount⟩ := h
  exact ⟨front, hleft, hsublist.cons c, hcount.trans (List.count_cons_of_ne hc).symm⟩

/-- What a cut character is read back as may be left of that character. -/
theorem leftOf_lastByteRead (c : Char) : LeftOf [lastByteRead c] [c] := by
  by_cases hc : c.toNat < 0x80
  · exact ⟨[c], Or.inl (by rw [lastByteRead, if_pos hc]), List.Sublist.refl _, rfl⟩
  · have hne : c ≠ '\n' := by
      rintro rfl
      exact hc (by decide)
    exact ⟨[], Or.inr (by rw [lastByteRead, if_neg hc]; rfl), List.nil_sublist _,
      (List.count_cons_of_ne hne).symm⟩

/-- The scan loses no newline. -/
theorem leftOf_kept (place : Place) (before rest : List Char) :
    LeftOf (kept place before rest) rest := by
  fun_induction kept place before rest with
  | case1 place before => exact ⟨[], Or.inl rfl, List.Sublist.refl _, rfl⟩
  | case2 before rest ih => exact .drop (by decide) (.drop (by decide) ih)
  | case3 before rest ih => exact .drop (by decide) (.drop (by decide) ih)
  | case4 before c rest hline hblock ih => exact .copy c ih
  | case5 enclosure escaped before c rest ih => exact .copy c ih
  | case6 before rest ih => exact .copy '\n' ih
  | case7 before c rest hnewline ih => exact .drop hnewline ih
  | case8 before c => exact leftOf_lastByteRead c
  | case9 before rest ih => exact .drop (by decide) (.drop (by decide) ih)
  | case10 before rest hrest hclose ih => exact .copy '\n' ih
  | case11 before c rest hrest hclose hnewline ih => exact .drop hnewline ih

/-- The bytes of the opening of a block comment, which the scan has left out. They make room for
U+FFFD in the place of the last character. -/
def Place.room : Place → ℕ
  | .blockComment => 2
  | _ => 0

theorem room_afterCode (before : List Char) (c : Char) : (Place.afterCode before c).room = 0 := by
  unfold Place.afterCode
  split_ifs <;> rfl

theorem Enclosure.room_after (enclosure : Enclosure) (escaped : Bool) (c : Char) :
    (enclosure.after escaped c).room = 0 := by
  cases enclosure <;> simp only [Enclosure.after, Enclosure.afterPlain] <;> split_ifs <;> rfl

/-- What is left of the last character takes at most one byte more than it. -/
theorem size_lastByteRead_le (c : Char) : (lastByteRead c).utf8Size ≤ c.utf8Size + 1 := by
  by_cases hc : c.toNat < 0x80
  · rw [lastByteRead, if_pos hc]
    exact Nat.le_succ _
  · have hone : c.utf8Size ≠ 1 := by
      rw [Ne, Char.utf8Size_eq_one_iff, UInt32.le_iff_toNat_le]
      exact fun hle ↦ hc (Nat.lt_succ_of_le hle)
    have hpos := c.utf8Size_pos
    have hthree : replacement.utf8Size = 3 := rfl
    rw [lastByteRead, if_neg hc]
    omega

/-- The scan leaves no more bytes than it reads, and those that opened a block comment. -/
theorem size_kept_le (place : Place) (before rest : List Char) :
    size (kept place before rest) ≤ size rest + place.room := by
  have hslash : '/'.utf8Size = 1 := rfl
  have hstar : '*'.utf8Size = 1 := rfl
  fun_induction kept place before rest with
  | case1 place before => exact Nat.zero_le _
  | case4 before c rest hline hblock ih =>
    rw [room_afterCode] at ih
    exact Nat.add_le_add_left ih c.utf8Size
  | case5 enclosure escaped before c rest ih =>
    rw [Enclosure.room_after] at ih
    simp only [size]
    omega
  | case8 before c =>
    have hlast := size_lastByteRead_le c
    simp only [size, Place.room]
    omega
  -- The other places are named, so their room is known.
  | _ =>
    simp only [size, Place.room] at *
    omega

/-- The removal of comments keeps every newline. Each line of the output, up to one U+FFFD at the
end, has some of the bytes of the line in its place, and there are no more bytes in all. -/
theorem stripComments_lines (text : List Char) :
    (stripComments text).count '\n' = text.count '\n' ∧
      (∃ front, (stripComments text = front ∨ stripComments text = front ++ [replacement]) ∧
        List.Forall₂ (fun left line ↦ (bytes left).Sublist (bytes line))
          (front.splitOn '\n') (text.splitOn '\n')) ∧
      (bytes (stripComments text)).length ≤ (bytes text).length := by
  rw [stripComments_eq_kept, length_bytes, length_bytes]
  obtain ⟨front, hleft, hsublist, hcount⟩ := leftOf_kept .code [] text
  refine ⟨?_, ⟨front, hleft, ?_⟩, size_kept_le .code [] text⟩
  · rcases hleft with hleft | hleft <;> rw [hleft]
    · exact hcount
    · rw [List.count_append, hcount]
      rfl
  · exact (forall₂_splitOn_sublist hsublist hcount).imp fun _ _ hline ↦ hline.flatMap _

end PluginRecovery.Script
