import Mathlib
import PluginRecovery.Analysis.WholeText
import PluginRecovery.Proofs.Pattern.Occurrence

/-!
What stands before the body of a function in a script: a name, in a method behind the mark of an
asynchronous function and in a property with its colon, and a row of parameters. The patterns for
these parts accept what is written so and can read it, and so do the heads that are made of them
(`FunctionForm.isHead_of_accepts`, `FunctionForm.canRead_head`).
-/

set_option autoImplicit false
set_option relaxedAutoImplicit false

namespace PluginRecovery.WholeText

open PluginRecovery.Text PluginRecovery.Pattern

variable {text : List Char}

/-! ### Parameters -/

/-- A row of arguments stands in parentheses and has no closing one inside. -/
theorem exists_row_of_accepts_arguments (h : arguments.Accepts text) :
    ∃ row, text = '(' :: row ++ [')'] ∧ ')' ∉ row := by
  obtain ⟨_, close, rfl, hinner, hclose⟩ := h.of_append
  obtain ⟨opening, row, rfl, hopening, hrow⟩ := hinner.of_append
  obtain rfl := hclose.of_literal
  obtain rfl := hopening.of_literal
  exact ⟨row, rfl, fun hmem ↦ by simpa using hrow.of_many.1 _ hmem⟩

theorem canRead_arguments {row : List Char} (h : ')' ∉ row) :
    arguments.CanRead ('(' :: row ++ [')']) :=
  ((canRead_literal "(").append (canRead_anyNumber fun c hc ↦ by
    simpa using ne_of_mem_of_not_mem hc h)).append (canRead_literal ")")

/-- A row of parameters in parentheses, with white space around it. -/
def IsParameters (text : List Char) : Prop :=
  ∃ before row behind, text = before ++ ('(' :: row ++ [')']) ++ behind ∧ blank before = true ∧
    ')' ∉ row ∧ blank behind = true

theorem isParameters_of_accepts {before row behind : List Char} (hbefore : gap.Accepts before)
    (hrow : arguments.Accepts row) (hbehind : gap.Accepts behind) :
    IsParameters (before ++ row ++ behind) := by
  obtain ⟨row, rfl, hclosed⟩ := exists_row_of_accepts_arguments hrow
  exact ⟨before, row, behind, rfl, blank_of_accepts_gap hbefore, hclosed,
    blank_of_accepts_gap hbehind⟩

/-- Parameters are read with the white space around them. -/
theorem IsParameters.exists_canRead (h : IsParameters text) :
    ∃ before row behind, text = before ++ row ++ behind ∧ gap.CanRead before ∧
      arguments.CanRead row ∧ gap.CanRead behind := by
  obtain ⟨before, row, behind, rfl, hbefore, hrow, hbehind⟩ := h
  exact ⟨before, _, behind, rfl, canRead_gap hbefore, canRead_arguments hrow, canRead_gap hbehind⟩

/-! ### Names and marks -/

/-- The mark of an asynchronous function with white space behind it, or nothing. -/
def IsAsyncMark (text : List Char) : Prop :=
  text = [] ∨ ∃ space, text = "async".toList ++ space ∧ space ≠ [] ∧ blank space = true

theorem isAsyncMark_of_accepts (h : maybeAsync.Accepts text) : IsAsyncMark text := by
  rcases h.of_optional with h | rfl
  · obtain ⟨word, space, rfl, hword, hspace⟩ := h.of_append
    obtain rfl := hword.of_literal
    obtain ⟨hall, hlength, -⟩ := hspace.of_many
    exact .inr ⟨space, rfl, List.length_pos_iff.mp hlength, List.all_eq_true.mpr hall⟩
  · exact .inl rfl

theorem canRead_asyncMark (h : IsAsyncMark text) : maybeAsync.CanRead text := by
  rcases h with rfl | ⟨space, rfl, hne, hspace⟩
  · exact canRead_optional_nil _
  · exact ((canRead_literal "async").append (canRead_many true (List.all_eq_true.mp hspace)
      (List.length_pos_iff.mpr hne) (by simp))).altFirst _

/-- What one of several names accepts is that name. -/
theorem exists_name_of_accepts {names : List String}
    (h : (firstOf (names.map literal)).Accepts text) : ∃ name ∈ names, text = name.toList := by
  obtain ⟨p, hp, h⟩ := h.of_firstOf
  obtain ⟨name, hname, rfl⟩ := List.mem_map.mp hp
  exact ⟨name, hname, h.of_literal⟩

theorem canRead_name {names : List String} {name : String} (h : name ∈ names) :
    (firstOf (names.map literal)).CanRead name.toList :=
  (canRead_literal name).firstOf (List.mem_map_of_mem h)

/-! ### Heads -/

/-- How a function is written whose body is looked for: as a method of one of the names, or as a
property of one of them. -/
inductive FunctionForm where
  | method (names : List String)
  | property (names : List String)

namespace FunctionForm

/-- The pattern of what stands before the body. -/
def head : FunctionForm → Pattern
  | method names => maybeAsync ++ firstOf (names.map literal) ++ gap ++ arguments ++ gap
  | property names =>
    firstOf (names.map literal) ++ ":" ++ gap ++ maybeAsync ++ "function" ++ gap ++ arguments ++ gap

/-- What stands before the body, up to its open brace. -/
def IsHead : FunctionForm → List Char → Prop
  | method names, text => ∃ mark name parameters, IsAsyncMark mark ∧ name ∈ names ∧
      IsParameters parameters ∧ text = mark ++ name.toList ++ parameters
  | property names, text => ∃ name space mark parameters, name ∈ names ∧ blank space = true ∧
      IsAsyncMark mark ∧ IsParameters parameters ∧
      text = name.toList ++ [':'] ++ space ++ mark ++ "function".toList ++ parameters

/-- What the pattern of a head accepts is a head. -/
theorem isHead_of_accepts {form : FunctionForm} (h : form.head.Accepts text) :
    form.IsHead text := by
  cases form with
  | method names =>
    obtain ⟨_, behind, rfl, h, hbehind⟩ := h.of_append
    obtain ⟨_, row, rfl, h, hrow⟩ := h.of_append
    obtain ⟨_, before, rfl, h, hbefore⟩ := h.of_append
    obtain ⟨mark, _, rfl, hmark, hword⟩ := h.of_append
    obtain ⟨name, hname, rfl⟩ := exists_name_of_accepts hword
    exact ⟨mark, name, _, isAsyncMark_of_accepts hmark, hname,
      isParameters_of_accepts hbefore hrow hbehind, by simp⟩
  | property names =>
    obtain ⟨_, behind, rfl, h, hbehind⟩ := h.of_append
    obtain ⟨_, row, rfl, h, hrow⟩ := h.of_append
    obtain ⟨_, before, rfl, h, hbefore⟩ := h.of_append
    obtain ⟨_, keyword, rfl, h, hkeyword⟩ := h.of_append
    obtain ⟨_, mark, rfl, h, hmark⟩ := h.of_append
    obtain ⟨_, space, rfl, h, hspace⟩ := h.of_append
    obtain ⟨_, colon, rfl, hword, hcolon⟩ := h.of_append
    obtain ⟨name, hname, rfl⟩ := exists_name_of_accepts hword
    obtain rfl := hkeyword.of_literal
    obtain rfl := hcolon.of_literal
    exact ⟨name, space, mark, _, hname, blank_of_accepts_gap hspace, isAsyncMark_of_accepts hmark,
      isParameters_of_accepts hbefore hrow hbehind, by simp⟩

/-- A head is read wherever it stands. -/
theorem canRead_head {form : FunctionForm} (h : form.IsHead text) : form.head.CanRead text := by
  cases form with
  | method names =>
    obtain ⟨mark, name, _, hmark, hname, hparameters, rfl⟩ := h
    obtain ⟨before, row, behind, rfl, hbefore, hrow, hbehind⟩ := hparameters.exists_canRead
    have hread : (head (method names)).CanRead (mark ++ name.toList ++ before ++ row ++ behind) :=
      ((((canRead_asyncMark hmark).append (canRead_name hname)).append hbefore).append hrow).append
        hbehind
    simpa using hread
  | property names =>
    obtain ⟨name, space, mark, _, hname, hspace, hmark, hparameters, rfl⟩ := h
    obtain ⟨before, row, behind, rfl, hbefore, hrow, hbehind⟩ := hparameters.exists_canRead
    have hkey := ((canRead_name hname).append (canRead_literal ":")).append (canRead_gap hspace)
    have hread : (head (property names)).CanRead (name.toList ++ [':'] ++ space ++ mark ++
        "function".toList ++ before ++ row ++ behind) :=
      ((((hkey.append (canRead_asyncMark hmark)).append (canRead_literal "function")).append
        hbefore).append hrow).append hbehind
    simpa using hread

/-- No group is kept of a head, so that the body is group 1. -/
theorem keeps_head (form : FunctionForm) : form.head.keeps = [] := by
  cases form <;> simp [head, keeps_firstOf_map keeps_literal, maybeAsync, arguments,
    Pattern.optional, gap, blanks, anyNumber, oneOrMore, keeps]

end FunctionForm

end PluginRecovery.WholeText
