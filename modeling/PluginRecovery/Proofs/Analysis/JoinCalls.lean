import Mathlib
import PluginRecovery.Analysis.Analyzer
import PluginRecovery.Proofs.Analysis.FunctionHead

/-!
By what a script joins the blocks of a chapter. A call of `join` names its separator in quotes
(`IsJoinCall`), and the pattern that looks for a separator occurs exactly in the bodies with such a
call (`occursIn_joinCall_iff`). The patterns are tried one after the other, each on the whole body,
so of several separators with calls the one that is tried first counts, wherever its calls stand
(`textJoin_eq_iff`). It is that of the leftmost call exactly when no separator that is tried before
it has a call at all (`textJoin_of_joins`): a call with a space does not count against a later one
with a newline (`textJoin_of_later_newline`).
-/

set_option autoImplicit false
set_option relaxedAutoImplicit false

namespace PluginRecovery.Analysis

open PluginRecovery.Text PluginRecovery.Pattern

/-! ### Separators -/

/-- What a call of `join` can have for its separator. -/
inductive Separator where
  | blankLine
  | newline
  | space
  deriving DecidableEq

namespace Separator

def text : Separator → String
  | blankLine => "\n\n"
  | newline => "\n"
  | space => " "

/-- How the separator is written between quotes: newlines as escapes, a space as one or more. -/
def IsWritten : Separator → List Char → Prop
  | blankLine, written => written = "\\n\\n".toList
  | newline, written => written = "\\n".toList
  | space, written => written ≠ [] ∧ ∀ c ∈ written, c = ' '

/-- The pattern of what is written. -/
def pattern : Separator → Pattern
  | blankLine => "\\n\\n"
  | newline => "\\n"
  | space => oneOrMore (· == ' ')

/-- The separators in the order in which they are looked for. -/
def all : List Separator :=
  [blankLine, newline, space]

/-- The separators that are looked for before one of them. -/
def sooner : Separator → List Separator
  | blankLine => []
  | newline => [blankLine]
  | space => [blankLine, newline]

variable {separator other : Separator} {written : List Char}

/-- No separator has a quote in it, so that the quotes around it are the next ones. -/
theorem IsWritten.unquoted (h : separator.IsWritten written) :
    ∀ c ∈ written, (!isQuoteMark c) = true := by
  cases separator with
  | blankLine =>
    obtain rfl := h
    exact List.all_eq_true.mp rfl
  | newline =>
    obtain rfl := h
    exact List.all_eq_true.mp rfl
  | space =>
    intro c hc
    obtain rfl := h.2 c hc
    rfl

/-- What is written tells the separator. -/
theorem IsWritten.unique (h : separator.IsWritten written) (h' : other.IsWritten written) :
    separator = other := by
  have hspaces {written : List Char} (hspaces : space.IsWritten written) : '\\' ∉ written :=
    fun hmem ↦ absurd (hspaces.2 _ hmem) (by decide)
  have hblank : '\\' ∈ "\\n\\n".toList := List.mem_cons_self
  have hnewline : '\\' ∈ "\\n".toList := List.mem_cons_self
  cases separator <;> cases other <;> try rfl
  case blankLine.newline => exact absurd (h.symm.trans h') (by decide)
  case newline.blankLine => exact absurd (h.symm.trans h') (by decide)
  case blankLine.space => exact absurd (h ▸ hblank) (hspaces h')
  case newline.space => exact absurd (h ▸ hnewline) (hspaces h')
  case space.blankLine => exact absurd (h' ▸ hblank) (hspaces h)
  case space.newline => exact absurd (h' ▸ hnewline) (hspaces h)

/-- What the pattern of a separator accepts is a way to write it. -/
theorem isWritten_of_accepts (h : separator.pattern.Accepts written) :
    separator.IsWritten written := by
  cases separator with
  | blankLine => exact h.of_literal
  | newline => exact h.of_literal
  | space =>
    obtain ⟨hall, hlength, -⟩ := h.of_many
    exact ⟨List.length_pos_iff.mp hlength, fun c hc ↦ eq_of_beq (hall c hc)⟩

theorem IsWritten.canRead (h : separator.IsWritten written) :
    separator.pattern.CanRead written := by
  cases separator with
  | blankLine =>
    obtain rfl := h
    exact canRead_literal _
  | newline =>
    obtain rfl := h
    exact canRead_literal _
  | space =>
    obtain ⟨hne, hrow⟩ := h
    exact canRead_many true (fun c hc ↦ beq_iff_eq.mpr (hrow c hc)) (List.length_pos_iff.mpr hne)
      (by simp)

end Separator

/-! ### Calls -/

variable {separator other : Separator} {call front front' body : List Char}

/-- A call of `join` with the separator in quotes, and white space around them or none. -/
def IsJoinCall (separator : Separator) (call : List Char) : Prop :=
  ∃ before opening written closing behind,
    call = "join(".toList ++ (before ++ opening :: (written ++ closing :: (behind ++ [')']))) ∧
      blank before = true ∧ isQuoteMark opening = true ∧ separator.IsWritten written ∧
      isQuoteMark closing = true ∧ blank behind = true

/-- A call with the separator stands in the body behind `front`. -/
def JoinsAfter (separator : Separator) (front body : List Char) : Prop :=
  ∃ call back, IsJoinCall separator call ∧ body = front ++ call ++ back

/-- A call with the separator stands somewhere in the body. -/
def Joins (separator : Separator) (body : List Char) : Prop :=
  ∃ front, JoinsAfter separator front body

/-- Between the first quote behind white space and the next one stands what is written. -/
theorem takeWhile_quoted {before written more : List Char} {opening closing : Char}
    (hbefore : blank before = true) (hopening : isQuoteMark opening = true)
    (hwritten : ∀ c ∈ written, (!isQuoteMark c) = true) (hclosing : isQuoteMark closing = true) :
    ((before ++ opening :: (written ++ closing :: more)).dropWhile isBlank).tail.takeWhile
      (!isQuoteMark ·) = written := by
  have hvisible : isBlank opening = false := by
    simp only [isQuoteMark, Bool.or_eq_true, beq_iff_eq] at hopening
    rcases hopening with rfl | rfl <;> decide
  rw [List.dropWhile_append_of_pos (List.all_eq_true.mp hbefore), List.dropWhile_cons, hvisible,
    if_neg Bool.false_ne_true, List.tail_cons, List.takeWhile_append_of_pos hwritten,
    List.takeWhile_cons_of_neg (by simp [hclosing]), List.append_nil]

/-- Calls that begin at one place have the same separator. -/
theorem IsJoinCall.unique {call' back back' : List Char} (h : IsJoinCall separator call)
    (h' : IsJoinCall other call') (hsame : call ++ back = call' ++ back') : separator = other := by
  obtain ⟨before, opening, written, closing, behind, rfl, hbefore, hopening, hwritten,
    hclosing, -⟩ := h
  obtain ⟨before', opening', written', closing', behind', rfl, hbefore', hopening', hwritten',
    hclosing', -⟩ := h'
  have hargument : before ++ opening :: (written ++ closing :: (behind ++ ')' :: back)) =
      before' ++ opening' :: (written' ++ closing' :: (behind' ++ ')' :: back')) := by
    simpa using hsame
  have hwords := congrArg
    (fun text ↦ (List.dropWhile isBlank text).tail.takeWhile (!isQuoteMark ·)) hargument
  rw [takeWhile_quoted hbefore hopening hwritten.unquoted hclosing,
    takeWhile_quoted hbefore' hopening' hwritten'.unquoted hclosing'] at hwords
  exact hwritten.unique (hwords ▸ hwritten')

theorem isJoinCall_of_accepts (h : (joinCall separator.pattern).Accepts call) :
    IsJoinCall separator call := by
  obtain ⟨_, close, rfl, h, hclose⟩ := h.of_append
  obtain ⟨_, behind, rfl, h, hbehind⟩ := h.of_append
  obtain ⟨_, closing, rfl, h, hclosing⟩ := h.of_append
  obtain ⟨_, written, rfl, h, hwritten⟩ := h.of_append
  obtain ⟨_, opening, rfl, h, hopening⟩ := h.of_append
  obtain ⟨word, before, rfl, hword, hbefore⟩ := h.of_append
  obtain ⟨opening, hopened, rfl⟩ := hopening.of_one
  obtain ⟨closing, hclosed, rfl⟩ := hclosing.of_one
  obtain rfl := hword.of_literal
  obtain rfl := hclose.of_literal
  exact ⟨before, opening, written, closing, behind, by simp,
    blank_of_accepts_gap hbefore, hopened, Separator.isWritten_of_accepts hwritten,
    hclosed, blank_of_accepts_gap hbehind⟩

/-- A call of `join` is read by the pattern of its separator wherever it stands. -/
theorem IsJoinCall.canRead (h : IsJoinCall separator call) :
    (joinCall separator.pattern).CanRead call := by
  obtain ⟨before, opening, written, closing, behind, rfl, hbefore, hopening, hwritten, hclosing,
    hbehind⟩ := h
  have hread : (joinCall separator.pattern).CanRead
      ("join(".toList ++ before ++ [opening] ++ written ++ [closing] ++ behind ++ ")".toList) :=
    ((((((canRead_literal "join(").append (canRead_gap hbefore)).append
      (canRead_one hopening)).append hwritten.canRead).append (canRead_one hclosing)).append
        (canRead_gap hbehind)).append (canRead_literal ")")
  simpa using hread

/-- The pattern of a call occurs in the bodies with a call. -/
theorem occursIn_joinCall_iff :
    (joinCall separator.pattern).occursIn body = true ↔ Joins separator body := by
  constructor
  · intro h
    obtain ⟨front, call, back, hbody, hcall⟩ := exists_accepts_of_occursIn h
    exact ⟨front, call, back, isJoinCall_of_accepts hcall, hbody⟩
  · rintro ⟨front, call, back, hcall, rfl⟩
    exact hcall.canRead.occursIn front back

/-! ### The separator that counts -/

open Classical in
/-- The first separator with a call in the body counts; without any call, a blank line does. -/
theorem textJoin_eq_find? (body : List Char) : textJoin body =
    ((Separator.all.find? fun separator ↦ Joins separator body).map Separator.text).getD
      "\n\n" := by
  have hforms : joinForms =
      Separator.all.map fun separator ↦ (joinCall separator.pattern, separator.text) := rfl
  rw [textJoin, hforms, List.find?_map, Option.map_map]
  have hoccurs (separator : Separator) :
      (joinCall separator.pattern).occursIn body = decide (Joins separator body) := by
    rw [Bool.eq_iff_iff, occursIn_joinCall_iff, decide_eq_true_iff]
  simp only [Function.comp_def, hoccurs]
  rfl

/-- A separator with a call in the body counts unless one that is looked for sooner has one too. -/
theorem textJoin_eq_iff (h : Joins separator body) :
    textJoin body = separator.text ↔ ∀ other ∈ separator.sooner, ¬ Joins other body := by
  rw [textJoin_eq_find?]
  cases separator with
  | blankLine => simp [Separator.all, Separator.sooner, h]
  | newline =>
    by_cases hblank : Joins .blankLine body <;>
      simp [Separator.all, Separator.sooner, Separator.text, h, hblank]
  | space =>
    by_cases hblank : Joins .blankLine body <;> by_cases hnewline : Joins .newline body <;>
      simp [Separator.all, Separator.sooner, Separator.text, h, hblank, hnewline]

/-! ### The leftmost call -/

/-- The leftmost of all calls in the body stands behind `front` and has the separator. -/
structure JoinsFirst (separator : Separator) (front body : List Char) : Prop where
  joins : JoinsAfter separator front body
  leftmost : ∀ other front', JoinsAfter other front' body → front.length ≤ front'.length

/-- If there is a call, one of them is the leftmost. -/
theorem exists_joinsFirst (h : Joins separator body) :
    ∃ other front, JoinsFirst other front body := by
  have hplace : ∃ n other front, JoinsAfter other front body ∧ front.length = n := by
    obtain ⟨front, hfront⟩ := h
    exact ⟨front.length, separator, front, hfront, rfl⟩
  classical
  obtain ⟨other, front, hfront, hlength⟩ := Nat.find_spec hplace
  refine ⟨other, front, hfront, fun other' front' hfront' ↦ ?_⟩
  exact hlength.le.trans (Nat.find_min' hplace ⟨other', front', hfront', rfl⟩)

/-- There is one leftmost call, and it has one separator. -/
theorem JoinsFirst.unique (h : JoinsFirst separator front body)
    (h' : JoinsFirst other front' body) : separator = other ∧ front = front' := by
  have hlength : front.length = front'.length :=
    Nat.le_antisymm (h.leftmost _ _ h'.joins) (h'.leftmost _ _ h.joins)
  obtain ⟨call, back, hcall, hbody⟩ := h.joins
  obtain ⟨call', back', hcall', hbody'⟩ := h'.joins
  rw [hbody, List.append_assoc, List.append_assoc] at hbody'
  obtain ⟨hfront, hrest⟩ := List.append_inj hbody' hlength
  exact ⟨hcall.unique hcall' hrest, hfront⟩

theorem JoinsAfter.prefix_drop (h : JoinsAfter separator front body) :
    "join(".toList <+: body.drop front.length := by
  obtain ⟨call, back, ⟨before, opening, written, closing, behind, rfl, -⟩, rfl⟩ := h
  rw [List.append_assoc, List.append_assoc, List.drop_left]
  exact List.prefix_append _ _

/-- Without a call the blocks are joined by a blank line. Of the separators with a call in the body
the one that is looked for first counts, wherever the calls stand. So the separator of the leftmost
call, which there is when there are calls, counts exactly when none that is looked for sooner has a
call too. -/
theorem textJoin_of_joins (body : List Char) :
    ((∀ separator, ¬ Joins separator body) → textJoin body = "\n\n") ∧
    (∀ separator, Joins separator body →
      (textJoin body = separator.text ↔ ∀ other ∈ separator.sooner, ¬ Joins other body)) ∧
    ((∃ separator, Joins separator body) → ∃ separator front,
      JoinsFirst separator front body ∧
      (∀ other front', JoinsFirst other front' body → other = separator ∧ front' = front) ∧
      (textJoin body = separator.text ↔ ∀ other ∈ separator.sooner, ¬ Joins other body)) := by
  refine ⟨fun hnone ↦ ?_, fun separator ↦ textJoin_eq_iff, ?_⟩
  · rw [textJoin_eq_find?, List.find?_eq_none.mpr fun separator _ ↦ by simp [hnone separator]]
    rfl
  · rintro ⟨separator, hjoins⟩
    obtain ⟨first, front, hfirst⟩ := exists_joinsFirst hjoins
    exact ⟨first, front, hfirst, fun other front' h ↦ h.unique hfirst,
      textJoin_eq_iff ⟨front, hfirst.joins⟩⟩

/-- The leftmost call has a space and does not count, as a newline is looked for sooner. -/
theorem textJoin_of_later_newline :
    let body := "a.join(' ') + b.join('\\n')".toList
    JoinsFirst .space "a.".toList body ∧ textJoin body ≠ Separator.space.text ∧
      textJoin body = Separator.newline.text := by
  intro body
  have hjoins : JoinsAfter .space "a.".toList body :=
    ⟨"join(' ')".toList, " + b.join('\\n')".toList, ⟨[], '\'', [' '], '\'', [], by decide, rfl, rfl,
      ⟨List.cons_ne_nil _ _, by simp⟩, rfl, rfl⟩, rfl⟩
  have hcounts : textJoin body = Separator.newline.text := by decide +kernel
  refine ⟨⟨hjoins, fun other front' h ↦ ?_⟩, by rw [hcounts]; decide, hcounts⟩
  have hprefix := h.prefix_drop
  by_contra hlt
  have hshort : front'.length = 0 ∨ front'.length = 1 := by
    have hlength : "a.".toList.length = 2 := by decide
    omega
  rcases hshort with hzero | hone
  · exact absurd (hzero ▸ hprefix) (by decide)
  · exact absurd (hone ▸ hprefix) (by decide)

end PluginRecovery.Analysis
