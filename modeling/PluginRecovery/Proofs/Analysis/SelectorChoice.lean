import Mathlib
import PluginRecovery.Analysis.Functions
import PluginRecovery.Proofs.Pattern.Captures
import PluginRecovery.Proofs.Pattern.Leftmost
import PluginRecovery.Proofs.Script.ValueReading
import PluginRecovery.Proofs.Trace.Resolution

/-!
Which selector is chosen from the body of a function. The candidates are the quoted texts that the
calls of a form take first, in the order in which they stand (`standsInCall_of_mem_searchAll`). The
forms are tried one after another, so a candidate of an earlier form comes before one of a later
form wherever they stand. The choice is the first candidate in this order that belongs to the field,
and nothing is chosen only if no candidate of any form does (`selector_chooses`).
-/

set_option autoImplicit false
set_option relaxedAutoImplicit false

namespace PluginRecovery.Functions

open PluginRecovery.Text PluginRecovery.Pattern

/-! ### Candidates -/

/-- The text that a match of a call keeps. -/
def candidate (found : Match) : String :=
  String.ofList (found.groupText 1)

/-- One of the field's words is in the candidate, when that is in lower case, and the candidate is
acceptable. -/
structure Belongs (field : Field) (candidate : String) : Prop where
  word : ∃ word ∈ field.keywords, word.toList <:+: lower candidate.toList
  accepted : field.accepts candidate = true

/-- The two tests of the code say that a candidate belongs to a field. -/
theorem belongs_iff (field : Field) (candidate : String) :
    Belongs field candidate ↔
      (field.matchesKeyword candidate && field.accepts candidate) = true := by
  rw [Bool.and_eq_true, Field.matchesKeyword, List.any_eq_true]
  simp only [Script.contains_iff_isInfix]
  exact ⟨fun h ↦ ⟨h.word, h.accepted⟩, fun h ↦ ⟨h.1, h.2⟩⟩

instance (field : Field) (candidate : String) : Decidable (Belongs field candidate) :=
  decidable_of_iff _ (belongs_iff field candidate).symm

/-- What stands before the argument of a call of each form, up to the parenthesis. -/
def callees : List (String × List String) := [
  ("dollar-call", ["$("]),
  ("query-selector", [".querySelector(", ".querySelectorAll("]),
  ("select-call", [".select("]),
  ("find-call", [".find("])]

/-- The argument stands in the text as what a call of the form takes first: behind the parenthesis
and white space, between quotes. It is not empty and has no quotes in it. -/
structure StandsInCall (label : String) (text argument : List Char) : Prop where
  ne_nil : argument ≠ []
  unquoted : ∀ c ∈ argument, isQuoteMark c = false
  enclosed : ∃ words, (label, words) ∈ callees ∧ ∃ word ∈ words,
    ∃ front space opening closing back, blank space = true ∧ isQuoteMark opening = true ∧
      isQuoteMark closing = true ∧
      text = front ++ word.toList ++ space ++ opening :: argument ++ closing :: back

/-- The pattern of the form: one of its callees, white space and a quoted text. -/
theorem exists_callee_of_mem_genericCalls {form : Form} (hform : form ∈ genericCalls) :
    ∃ callee words, form.pattern = callee ++ gap ++ quotedText 1 ∧ callee.keeps = [] ∧
      (form.label, words) ∈ callees ∧
      ∀ text, callee.Accepts text → ∃ word ∈ words, text = word.toList := by
  have hliteral {word : String} {text : List Char} (h : (literal word).Accepts text) :
      ∃ other ∈ [word], text = other.toList := ⟨word, List.mem_singleton_self word, h.of_literal⟩
  simp only [genericCalls, List.mem_cons, List.not_mem_nil, or_false] at hform
  rcases hform with rfl | rfl | rfl | rfl
  · exact ⟨"$(", _, rfl, rfl, by simp [callees], fun _ ↦ hliteral⟩
  · refine ⟨".querySelector" ++ optional "All" ++ "(", [".querySelector(", ".querySelectorAll("],
      rfl, rfl, by simp [callees], ?_⟩
    intro text haccepts
    obtain ⟨_, paren, rfl, hname, hparen⟩ := haccepts.of_append
    obtain ⟨query, all, rfl, hquery, hall⟩ := hname.of_append
    obtain rfl := hquery.of_literal
    obtain rfl := hparen.of_literal
    rcases hall.of_optional with hall | rfl
    · obtain rfl := hall.of_literal
      exact ⟨".querySelectorAll(", by simp, rfl⟩
    · exact ⟨".querySelector(", by simp, rfl⟩
  · exact ⟨".select(", _, rfl, rfl, by simp [callees], fun _ ↦ hliteral⟩
  · exact ⟨".find(", _, rfl, rfl, by simp [callees], fun _ ↦ hliteral⟩

/-- Every match keeps the argument of a call of its form. -/
theorem standsInCall_of_mem_searchAll {form : Form} (hform : form ∈ genericCalls)
    {text : List Char} {found : Match} (hfound : found ∈ form.pattern.searchAll text) :
    StandsInCall form.label text (candidate found).toList := by
  obtain ⟨callee, words, hpattern, hkeeps, hwords, hcallee⟩ :=
    exists_callee_of_mem_genericCalls hform
  obtain ⟨front, whole, back, kept, rfl, hcaptures, hgroups⟩ :=
    (finds_of_mem_searchAll hfound).exists_captures
  rw [hpattern] at hcaptures
  obtain ⟨opened, quoted, _, _, rfl, rfl, hopened, hquoted⟩ := hcaptures.of_append
  obtain ⟨rfl, hbefore⟩ := hopened.of_keeps_nil
    (List.append_eq_nil_iff.mpr ⟨hkeeps, rfl⟩ : (callee ++ gap).keeps = [])
  obtain ⟨word, space, rfl, hword, hspace⟩ := hbefore.of_append
  obtain ⟨word, hmem, rfl⟩ := hcallee _ hword
  obtain ⟨_, close, rfl, hargument, hclose⟩ := hquoted.of_append_plain rfl
  obtain ⟨quote, argument, _, rfl, rfl, hquote, hinner⟩ := hargument.of_append_group rfl
  obtain ⟨rfl, hopen⟩ := hquote.of_keeps_nil rfl
  obtain ⟨opening, hopening, rfl⟩ := hopen.of_one
  obtain ⟨closing, hclosing, rfl⟩ := hclose.of_one
  obtain ⟨hall, hlength, -⟩ := hinner.of_many
  have hcandidate : (candidate found).toList = argument := by
    rw [candidate, String.toList_ofList, hgroups]
    rfl
  rw [hcandidate]
  refine ⟨List.length_pos_iff.mp hlength, fun c hc ↦ by simpa using hall c hc, words, hwords, word,
    hmem, front, space, opening, closing, back, List.all_eq_true.mpr hspace.of_many.1, hopening,
    hclosing, by simp⟩

/-- A call is not read without reading a character. -/
theorem not_accepts_nil_of_mem_genericCalls {form : Form} (hform : form ∈ genericCalls) :
    ¬ form.pattern.Accepts [] := by
  obtain ⟨callee, words, hpattern, -⟩ := exists_callee_of_mem_genericCalls hform
  intro haccepts
  rw [hpattern] at haccepts
  obtain ⟨_, quoted, hsplit, -, hquoted⟩ := haccepts.of_append
  obtain ⟨_, close, rfl, -, hclose⟩ := hquoted.of_append
  obtain ⟨closing, -, rfl⟩ := hclose.of_one
  simp at hsplit

/-! ### Choices -/

/-- No candidate of the form belongs to the field. -/
def Lacks (field : Field) (text : List Char) (form : Form) : Prop :=
  ∀ found ∈ form.pattern.searchAll text, ¬ Belongs field (candidate found)

/-- The match is the first, by form and then by place, whose candidate belongs to the field. -/
structure FirstChoice (field : Field) (text : List Char) (passed : List Form) (form : Form)
    (found : Match) : Prop where
  /-- These forms are tried before the match's own. -/
  forms : ∃ later, genericCalls = passed ++ form :: later
  lacks : ∀ other ∈ passed, Lacks field text other
  /-- None of the form's matches before this one will do. -/
  first : ∃ before later, form.pattern.searchAll text = before ++ found :: later ∧
    ∀ other ∈ before, ¬ Belongs field (candidate other)
  belongs : Belongs field (candidate found)

/-- The event of a form that has no candidate for the field. -/
def lacking (field : Field) (form : Form) : Event :=
  .missed field.name form.label "pattern did not match"

variable {field : Field} {form : Form} {forms : List Form} {text : List Char}

/-- The first match of the form whose candidate belongs to the field. -/
def chosen? (field : Field) (form : Form) (text : List Char) : Option Match :=
  (form.pattern.searchAll text).find? fun found ↦ Belongs field (candidate found)

/-- The match that is chosen belongs to the field, and none before it does. -/
theorem chosen?_eq_some_iff {found : Match} :
    chosen? field form text = some found ↔
      (∃ before later, form.pattern.searchAll text = before ++ found :: later ∧
        ∀ other ∈ before, ¬ Belongs field (candidate other)) ∧
      Belongs field (candidate found) := by
  rw [chosen?, List.find?_eq_some_iff_append, and_comm]
  simp only [decide_eq_true_iff, Bool.not_eq_true', decide_eq_false_iff_not]

/-- No match is chosen exactly if no candidate belongs to the field. -/
theorem chosen?_eq_none_iff : chosen? field form text = none ↔ Lacks field text form := by
  rw [chosen?, List.find?_eq_none, Lacks]
  simp only [decide_eq_true_iff]

/-- The candidate that a step looks for is that of the first match that will do. -/
theorem find?_candidates (field : Field) (form : Form) (text : List Char) :
    ((form.pattern.searchAll text).map fun found ↦ String.ofList (found.groupText 1)).find?
        (fun c ↦ field.matchesKeyword c && field.accepts c) =
      (chosen? field form text).map candidate := by
  have hbelongs (found : Match) : decide (Belongs field (candidate found)) =
      (field.matchesKeyword (candidate found) && field.accepts (candidate found)) := by
    rw [Bool.eq_iff_iff, decide_eq_true_iff, belongs_iff]
  simp only [List.find?_map, chosen?, hbelongs]
  rfl

/-- A step has the candidate of the match that is chosen. -/
theorem attempt_eq_ok_iff {result : String} :
    (selectorStep field form).attempt text = .ok result ↔
      ∃ found, chosen? field form text = some found ∧ result = candidate found := by
  simp only [selectorStep, find?_candidates]
  cases chosen? field form text with
  | some found => simp [eq_comm]
  | none => simp

/-- A step misses exactly if no candidate belongs to the field, and never for another reason. -/
theorem attempt_eq_error_iff {miss : Miss} :
    (selectorStep field form).attempt text = .error miss ↔
      Lacks field text form ∧ miss = .noMatch := by
  rw [← chosen?_eq_none_iff]
  simp only [selectorStep, find?_candidates]
  cases chosen? field form text with
  | some found => simp
  | none => simp [eq_comm]

theorem missFor_map_iff {misses : List Miss} :
    Chain.MissFor (forms.map (selectorStep field)) text misses ↔
      (∀ form ∈ forms, Lacks field text form) ∧ misses = forms.map fun _ ↦ .noMatch := by
  rw [Chain.MissFor, List.forall₂_map_left_iff]
  simp only [attempt_eq_error_iff]
  induction forms generalizing misses with
  | nil => simp
  | cons form forms ih =>
    rw [List.forall₂_cons_left_iff]
    simp only [ih, List.forall_mem_cons, List.map_cons]
    constructor
    · rintro ⟨_, _, ⟨hform, rfl⟩, ⟨hforms, rfl⟩, rfl⟩
      exact ⟨⟨hform, hforms⟩, rfl⟩
    · rintro ⟨⟨hform, hforms⟩, rfl⟩
      exact ⟨_, _, ⟨hform, rfl⟩, ⟨hforms, rfl⟩, rfl⟩

/-- Each form that is passed over reports that it matches nothing. -/
theorem missEvents_map (field : Field) (forms : List Form) :
    Chain.missEvents field.name (forms.map (selectorStep field)) (forms.map fun _ ↦ .noMatch) =
      forms.map (lacking field) := by
  rw [Chain.missEvents, List.zipWith_map, List.zipWith_self]
  rfl

/-- A selector comes with the events of the forms that are passed over and one of the form that has
it. -/
theorem selector_eq_ok_iff (field : Field) (text : List Char) (result : String)
    (events : List Event) :
    selector field text = ⟨.ok result, events⟩ ↔
      ∃ passed form found, FirstChoice field text passed form found ∧ result = candidate found ∧
        events = passed.map (lacking field) ++
          [.matched field.name form.label (Summary.summary result)] := by
  rw [selector, Chain.resolve_eq_iff]
  constructor
  · intro h
    cases h with
    | @matched missed later step misses value hsteps hmissed hvalue =>
      obtain ⟨passed, rest, hforms, rfl, hrest⟩ := List.map_eq_append_iff.mp hsteps
      obtain ⟨form, after, rfl, rfl, rfl⟩ := List.map_eq_cons_iff.mp hrest
      obtain ⟨hlacks, rfl⟩ := missFor_map_iff.mp hmissed
      obtain ⟨found, hchosen, hresult⟩ := attempt_eq_ok_iff.mp hvalue
      obtain ⟨hplace, hbelongs⟩ := chosen?_eq_some_iff.mp hchosen
      exact ⟨passed, form, found, ⟨⟨after, hforms⟩, hlacks, hplace, hbelongs⟩, hresult,
        by rw [missEvents_map]; rfl⟩
  · rintro ⟨passed, form, found, hchoice, hresult, rfl⟩
    obtain ⟨after, hforms⟩ := hchoice.forms
    have hsteps : genericCalls.map (selectorStep field) =
        passed.map (selectorStep field) ++
          selectorStep field form :: after.map (selectorStep field) := by
      rw [hforms, List.map_append, List.map_cons]
    have hchosen := chosen?_eq_some_iff.mpr ⟨hchoice.first, hchoice.belongs⟩
    rw [← missEvents_map]
    exact .matched hsteps (missFor_map_iff.mpr ⟨hchoice.lacks, rfl⟩)
      (attempt_eq_ok_iff.mpr ⟨found, hchosen, hresult⟩)

/-- There is no selector exactly if no form has a candidate for the field; then each of the four
reports so. -/
theorem selector_eq_error_iff (field : Field) (text : List Char) (miss : Miss)
    (events : List Event) :
    selector field text = ⟨.error miss, events⟩ ↔
      (∀ form ∈ genericCalls, Lacks field text form) ∧ miss = .exhausted 4 ∧
        events = genericCalls.map (lacking field) := by
  rw [selector, Chain.resolve_eq_iff, ← missEvents_map]
  constructor
  · intro h
    cases h with
    | exhausted hmissed =>
      obtain ⟨hlacks, rfl⟩ := missFor_map_iff.mp hmissed
      exact ⟨hlacks, rfl, rfl⟩
  · rintro ⟨hlacks, rfl, rfl⟩
    exact .exhausted (missFor_map_iff.mpr ⟨hlacks, rfl⟩)

/-- The candidates are the arguments in the calls of each form, of all its matches that do not
overlap. The selector of a field is the first candidate, by form and then by place, that belongs to
the field, and it is reported under the label of its form, behind a miss of each form before it.
There is none only if no candidate belongs to the field, and then each of the four forms misses. -/
theorem selector_chooses (field : Field) (text : List Char) :
    (∀ form ∈ genericCalls, form.pattern.Enumerates text (form.pattern.searchAll text) ∧
      ∀ found ∈ form.pattern.searchAll text,
        StandsInCall form.label text (candidate found).toList) ∧
    (∀ result events, selector field text = ⟨.ok result, events⟩ ↔
      ∃ passed form found, FirstChoice field text passed form found ∧ result = candidate found ∧
        events = passed.map (lacking field) ++
          [.matched field.name form.label (Summary.summary result)]) ∧
    (∀ miss events, selector field text = ⟨.error miss, events⟩ ↔
      (∀ form ∈ genericCalls, Lacks field text form) ∧ miss = .exhausted 4 ∧
        events = genericCalls.map (lacking field)) ∧
    ((∃ result events, selector field text = ⟨.ok result, events⟩) ↔
      ∃ form ∈ genericCalls, ∃ found ∈ form.pattern.searchAll text,
        Belongs field (candidate found)) := by
  refine ⟨fun form hform ↦ ⟨enumerates_searchAll (not_accepts_nil_of_mem_genericCalls hform) text,
    fun found ↦ standsInCall_of_mem_searchAll hform⟩, selector_eq_ok_iff field text,
    selector_eq_error_iff field text, ?_⟩
  constructor
  · rintro ⟨result, events, h⟩
    obtain ⟨passed, form, found, hchoice, -⟩ := (selector_eq_ok_iff field text _ _).mp h
    obtain ⟨after, hforms⟩ := hchoice.forms
    obtain ⟨before, later, hplace, -⟩ := hchoice.first
    exact ⟨form, by simp [hforms], found, by simp [hplace], hchoice.belongs⟩
  · rintro ⟨form, hform, found, hfound, hbelongs⟩
    cases hrun : selector field text with
    | mk result events =>
      cases result with
      | ok result => exact ⟨result, events, rfl⟩
      | error miss =>
        obtain ⟨hlacks, -⟩ := (selector_eq_error_iff field text miss events).mp hrun
        exact absurd hbelongs (hlacks form hform found hfound)

/-- The choice is a candidate of an earlier form, behind one of a later form and behind a candidate
of its own form that does not belong to the field. -/
theorem selector_chooses_writer :
    let text := "x.find('.author').select(\"b\").select( '.WRITER')".toList
    let events := [.missed "details.author" "dollar-call" "pattern did not match",
      .missed "details.author" "query-selector" "pattern did not match",
      .matched "details.author" "select-call" ".WRITER"]
    selector Field.author text = ⟨.ok ".WRITER", events⟩ ∧
      ∃ passed form found, FirstChoice Field.author text passed form found ∧
        ".WRITER" = candidate found ∧ events = passed.map (lacking Field.author) ++
          [.matched Field.author.name form.label (Summary.summary ".WRITER")] := by
  intro text events
  have hvalue : (selector Field.author text).value = .ok ".WRITER" := by decide +kernel
  have hevents : (selector Field.author text).events = events := by decide +kernel
  have hrun : selector Field.author text = ⟨.ok ".WRITER", events⟩ := by rw [← hvalue, ← hevents]
  obtain ⟨-, hok, -⟩ := selector_chooses Field.author text
  exact ⟨hrun, (hok _ _).mp hrun⟩

end PluginRecovery.Functions
