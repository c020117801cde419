import Mathlib
import PluginRecovery.Proofs.Dictionary
import PluginRecovery.Proofs.Pattern.Leftmost
import PluginRecovery.Proofs.Script.DeclarationPlaces

/-!
Which declaration a name stands for. The forms of declaration are looked for one after the other,
and each form finds all its matches that do not overlap, from left to right. Every match captures a
name (`FormMatch.name_ne_empty`), and what it declares is told by the match alone
(`FormMatch.declared`). `declarations_last` says that a name stands for what the last match declares
that has captured it, and that no name is lost but `async`.
-/

set_option autoImplicit false
set_option relaxedAutoImplicit false

namespace PluginRecovery.Script

open PluginRecovery.Text PluginRecovery.Pattern

variable {code : List Char}

structure FormMatch where
  form : DeclarationForm
  found : Match

namespace FormMatch

def name (m : FormMatch) : String :=
  String.ofList (m.found.groupText m.form.nameGroup)

/-- The declaration that the match stands for. Its body goes from the end of the match to the brace
that closes it. -/
def declared (m : FormMatch) (code : List Char) : Declaration where
  name := m.name
  params := paramsOf ([1, 2, 3].map m.found.groupText)
  body :=
    match closingBrace? (bytes code) m.found.whole.stop.offset with
    | some stop => String.ofList (slice code m.found.whole.stop.offset stop)
    | none => ""
  isAsync := (m.found.group? m.form.asyncGroup).isSome
  start := m.found.whole.start.offset
  stop := closingBrace? (bytes code) m.found.whole.stop.offset

end FormMatch

/-- The matches of all forms, form by form and in a form from left to right. -/
def formMatches (code : List Char) : List FormMatch :=
  declarationForms.flatMap fun form ↦ (form.pattern.searchAll code).map (⟨form, ·⟩)

/-! ### Names -/

theorem exists_of_mem_formMatches {m : FormMatch} (h : m ∈ formMatches code) :
    m.form ∈ declarationForms ∧ m.form.pattern.Finds code m.found := by
  obtain ⟨form, hform, hmem⟩ := List.mem_flatMap.mp h
  obtain ⟨found, hfound, rfl⟩ := List.mem_map.mp hmem
  exact ⟨hform, finds_of_mem_searchAll hfound⟩

/-- Each form keeps a name, the mark of an asynchronous function and, as the last of the three, a
row of parameters. -/
theorem keeps_of_mem_declarationForms {form : DeclarationForm} (h : form ∈ declarationForms) :
    let mark := (form.asyncGroup, literal "async" ++ blanks)
    let name := (form.nameGroup, word)
    let row := (3, anyNumber (· != ')'))
    form.pattern.keeps = [mark, name, row] ∨ form.pattern.keeps = [name, mark, row] := by
  rcases eq_of_mem_declarationForms h with rfl | rfl | rfl | rfl
  · exact .inl rfl
  · exact .inr rfl
  · exact .inl rfl
  · exact .inr rfl

/-- The name, the mark of `async` and the row of parameters are three groups of each form. -/
theorem groups_ne_of_mem_declarationForms {form : DeclarationForm} (h : form ∈ declarationForms) :
    form.nameGroup ≠ 3 ∧ form.asyncGroup ≠ 3 ∧ form.nameGroup ≠ form.asyncGroup := by
  rcases eq_of_mem_declarationForms h with rfl | rfl | rfl | rfl
  all_goals decide

/-- The name of a form is a word, in every match of it. -/
theorem nameGroup_of_mem_declarationForms {form : DeclarationForm} (h : form ∈ declarationForms) :
    form.pattern.alwaysKeeps form.nameGroup = true ∧
      ∀ body, (form.nameGroup, body) ∈ form.pattern.keeps → body = word := by
  refine ⟨?_, fun body hbody ↦ ?_⟩
  · rcases eq_of_mem_declarationForms h with rfl | rfl | rfl | rfl
    all_goals rfl
  · obtain ⟨hrow, -, hmark⟩ := groups_ne_of_mem_declarationForms h
    rcases keeps_of_mem_declarationForms h with hkeeps | hkeeps
    all_goals
      rw [hkeeps] at hbody
      grind

theorem FormMatch.name_ne_empty {m : FormMatch} (h : m ∈ formMatches code) : m.name ≠ "" := by
  obtain ⟨hform, hfinds⟩ := exists_of_mem_formMatches h
  obtain ⟨hkeeps, hbody⟩ := nameGroup_of_mem_declarationForms hform
  obtain ⟨span, hspan⟩ := hfinds.isMatch.exists_lookup_of_alwaysKeeps hkeeps
  obtain ⟨body, hmem, haccepts⟩ := hfinds.isMatch.exists_accepts_of_lookup hspan
  obtain rfl := hbody body hmem
  have htext : m.found.groupText m.form.nameGroup = span.text := by
    rw [Match.groupText, Match.group?, hspan]
    rfl
  intro hempty
  have hnil := String.ofList_eq_empty_iff.mp hempty
  have hlength := haccepts.of_many.2.1
  rw [← htext, hnil] at hlength
  exact absurd hlength (by decide)

/-! ### Declarations -/

/-- A match declares what it stands for unless its name is `async`. -/
theorem declaration?_eq {m : FormMatch} (h : m ∈ formMatches code) :
    m.form.declaration? code m.found =
      if m.name = "async" then none else some (m.declared code) := by
  have hempty : (m.found.groupText m.form.nameGroup).isEmpty = false := by
    rw [List.isEmpty_eq_false_iff]
    exact fun hnil ↦ FormMatch.name_ne_empty h (String.ofList_eq_empty_iff.mpr hnil)
  have hasync : m.name = "async" ↔ m.found.groupText m.form.nameGroup = "async".toList := by
    rw [FormMatch.name, ← String.toList_inj, String.toList_ofList]
  rw [DeclarationForm.declaration?]
  simp only [hempty, Bool.false_or, beq_iff_eq, hasync]
  split_ifs with hname
  · rfl
  · rw [FormMatch.declared]
    cases closingBrace? (bytes code) m.found.whole.stop.offset <;> rfl

/-- The declarations are the matches of the forms in order, without those called `async`. -/
theorem allDeclarations_eq (code : List Char) :
    allDeclarations code =
      ((formMatches code).filter (·.name ≠ "async")).map (·.declared code) := by
  have hall : allDeclarations code =
      (formMatches code).filterMap fun m ↦ m.form.declaration? code m.found := by
    simp only [allDeclarations, formMatches, List.filterMap_flatMap, List.filterMap_map]
    rfl
  rw [hall, ← List.filterMap_eq_filter, List.map_filterMap]
  refine List.filterMap_congr fun m hm ↦ ?_
  rw [declaration?_eq hm]
  by_cases hname : m.name = "async" <;> simp [hname]

/-- Under a name stands what the last match of that name declares. -/
theorem get?_declarations (code : List Char) (name : String) :
    (declarations code).get? name =
      if name = "async" then none
      else (((formMatches code).filter (·.name = name)).getLast?).map (·.declared code) := by
  have hmap : (allDeclarations code).map (fun d ↦ (d.name, d)) =
      ((formMatches code).filter (·.name ≠ "async")).map fun m ↦ (m.name, m.declared code) := by
    rw [allDeclarations_eq, List.map_map]
    rfl
  rw [declarations, hmap, Dictionary.get?_ofEntries_map, List.filter_filter]
  split_ifs with hasync
  · subst hasync
    have hnone : (formMatches code).filter
        (fun m ↦ decide (m.name = "async") && decide (m.name ≠ "async")) = [] := by
      simp
    rw [hnone]
    rfl
  · congr 3
    funext m
    by_cases hname : m.name = name <;> simp [hname, hasync]

/-- The forms of declaration find all their matches that do not overlap. Of these matches, form by
form and in a form from left to right, the names are captured that stand for a function, but for
`async`; each name is there once, and stands for what the last match that captured it declares. -/
theorem declarations_last (code : List Char) :
    (∀ form ∈ declarationForms, form.pattern.Enumerates code (form.pattern.searchAll code)) ∧
    Dictionary.Ascending (declarations code) ∧
    ∀ name, (name ∈ (declarations code).names ↔
        name ≠ "async" ∧ ∃ m ∈ formMatches code, m.name = name) ∧
      (declarations code).get? name =
        if name = "async" then none
        else (((formMatches code).filter (·.name = name)).getLast?).map (·.declared code) := by
  refine ⟨fun form hform ↦ ?_, Dictionary.ascending_ofEntries _, fun name ↦ ⟨?_, ?_⟩⟩
  · exact enumerates_searchAll (endsWith_of_mem_declarationForms hform).not_accepts_nil code
  · rw [Dictionary.mem_names_iff, get?_declarations]
    split_ifs with hasync
    · simp [hasync]
    · rw [Option.isSome_map, List.getLast?_isSome, Ne, List.filter_eq_nil_iff]
      simp [hasync]
  · exact get?_declarations code name

/-- A name that three forms capture. The last of them is the form of methods, whose match begins at
the name and so is not marked as `async`. A method of that name stands for nothing. -/
theorem declarations_last_method :
    let code := "async function f(a,b)\x7b1\x7df:function(c)\x7b2\x7dasync(x)\x7b3\x7d".toList
    let method : Declaration := ⟨"f", ["a", "b"], "1", false, 15, some 23⟩
    (functionForm ∈ declarationForms ∧
      functionForm.pattern.Enumerates code (functionForm.pattern.searchAll code)) ∧
      ((formMatches code).map FormMatch.name = ["f", "f", "f", "function", "async"] ∧
        "f" ∈ (declarations code).names ∧ "async" ∉ (declarations code).names) ∧
      (declarations code).get? "f" = some method := by
  intro code method
  obtain ⟨henumerates, -, hnames⟩ := declarations_last code
  have hform : functionForm ∈ declarationForms := List.mem_cons_self
  have hcaptured : (formMatches code).map FormMatch.name =
      ["f", "f", "f", "function", "async"] := by decide +kernel
  have hlast : (((formMatches code).filter (·.name = "f")).getLast?).map (·.declared code) =
      some method := by decide +kernel
  have hf : ∃ m ∈ formMatches code, m.name = "f" := by
    rw [← List.mem_map, hcaptured]
    decide
  exact ⟨⟨hform, henumerates functionForm hform⟩,
    ⟨hcaptured, (hnames "f").1.mpr ⟨by decide, hf⟩,
      fun hasync ↦ ((hnames "async").1.mp hasync).1 rfl⟩,
    (hnames "f").2.trans hlast⟩

end PluginRecovery.Script
