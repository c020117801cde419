import Mathlib
import PluginRecovery.Proofs.Dictionary
import PluginRecovery.Proofs.Pattern.Placement
import PluginRecovery.Proofs.Script.BraceMatching
import PluginRecovery.Proofs.Text.Slices
import PluginRecovery.Script.Declaration

/-!
Where declared functions stand in the code. All forms of declaration end with an open brace
(`endsWith_of_mem_declarationForms`), so the body begins behind a brace, between two characters. It
goes up to the brace that closes this one, which is again a place between characters, and in between
the slice of the code holds the bytes of the body (`hasBody_of_closingBrace?`). That makes a
declaration `StandsIn` the code, whether it is kept or replaced by a later one of its name
(`standsIn_of_mem_declarations`).
-/

set_option autoImplicit false
set_option relaxedAutoImplicit false

namespace PluginRecovery.Script

open PluginRecovery.Text PluginRecovery.Pattern

variable {code : List Char}

/-- The body is the part of the code between two places, the later one that of a closing brace. -/
structure HasBody (code body : List Char) (start stop : ℕ) : Prop where
  start_le : start ≤ stop
  stop_lt : stop < size code
  closing : (bytes code)[stop]? = some '}'.toUInt8
  start_isBoundary : IsBoundary code start
  stop_isBoundary : IsBoundary code stop
  bytes_eq : bytes body = ((bytes code).drop start).take (stop - start)

/-- The declaration begins before its body, which stands behind an open brace, up to the brace that
closes it; without that brace the body is empty. -/
structure Declaration.StandsIn (d : Declaration) (code : List Char) (bodyStart : ℕ) : Prop where
  start_lt : d.start < bodyStart
  bodyStart_le : bodyStart ≤ size code
  opening : (bytes code)[bodyStart - 1]? = some '{'.toUInt8
  stop_eq : d.stop = closingBrace? (bytes code) bodyStart
  body_of_some : ∀ stop, d.stop = some stop → HasBody code d.body.toList bodyStart stop
  body_of_none : d.stop = none → d.body = ""

/-! ### Bodies -/

/-- A brace that is found to close a body cuts it out of the code. -/
theorem hasBody_of_closingBrace? {start stop : ℕ} (hstart : IsBoundary code start)
    (h : closingBrace? (bytes code) start = some stop) :
    HasBody code (slice code start stop) start stop := by
  obtain ⟨hle, hclosing⟩ := getElem?_of_closingBrace? h
  have hstop : IsBoundary code stop := isBoundary_of_getElem? (by decide) hclosing
  exact ⟨hle, lt_size_of_getElem? hclosing, hclosing, hstart, hstop, bytes_slice hstart hstop hle⟩

/-! ### Declarations -/

theorem eq_of_mem_declarationForms {form : DeclarationForm} (h : form ∈ declarationForms) :
    form = functionForm ∨ form = functionPropertyForm ∨ form = methodForm ∨
      form = arrowPropertyForm := by
  simpa [declarationForms] using h

/-- What the pattern of a form finds ends with the brace that opens the body. -/
theorem endsWith_of_mem_declarationForms {form : DeclarationForm} (h : form ∈ declarationForms) :
    form.pattern.EndsWith '{' := by
  have hopen : openBody.EndsWith '{' := (endsWith_literal [] rfl).append gap
  rcases eq_of_mem_declarationForms h with rfl | rfl | rfl | rfl
  all_goals exact hopen.append _

/-- No declaration is without a name, and none has the name `async`. -/
theorem name_of_declaration? {form : DeclarationForm} {found : Match} {d : Declaration}
    (h : form.declaration? code found = some d) : d.name ≠ "" ∧ d.name ≠ "async" := by
  rw [DeclarationForm.declaration?] at h
  dsimp only at h
  split_ifs at h with hname
  obtain rfl := Option.some.inj h
  obtain ⟨hempty, hasync⟩ := not_or.mp (Bool.or_eq_true_iff.not.mp hname)
  refine ⟨fun hnil ↦ hempty ?_, fun hword ↦ hasync ?_⟩
  · rw [List.isEmpty_iff]
    exact String.ofList_eq_empty_iff.mp hnil
  · rw [beq_iff_eq, ← hword, String.toList_ofList]

/-- The body of a match that ends with an open brace begins behind the brace. -/
theorem opening_of_finds {pattern : Pattern} (hlast : pattern.EndsWith '{') {found : Match}
    (h : pattern.Finds code found) : found.whole.start.offset < found.whole.stop.offset ∧
      (bytes code)[found.whole.stop.offset - 1]? = some '{'.toUInt8 ∧
      IsBoundary code found.whole.stop.offset := by
  obtain ⟨front, middle, back, rfl, hstart, hstop⟩ := h.exists_last hlast
  have hbrace : found.whole.stop.offset = size (front ++ middle) + 1 := hstop
  refine ⟨?_, ?_, front ++ middle ++ ['{'], back, List.append_cons .., ?_⟩
  · rw [hbrace, hstart]
    exact Nat.lt_succ_of_le (size_le_append front middle)
  · rw [hbrace, Nat.add_sub_cancel]
    exact (getElem?_bytes_eq_some_iff (by decide)).mpr ⟨_, _, rfl, rfl⟩
  · rw [hstop, size_append (front ++ middle)]
    rfl

/-- A match of a form that ends with an open brace makes a declaration that stands in the code. -/
theorem standsIn_of_declaration? {form : DeclarationForm} (hform : form.pattern.EndsWith '{')
    {found : Match} (hfound : form.pattern.Finds code found) {d : Declaration}
    (h : form.declaration? code found = some d) : ∃ bodyStart, d.StandsIn code bodyStart := by
  rw [DeclarationForm.declaration?] at h
  dsimp only at h
  split_ifs at h
  obtain rfl := Option.some.inj h
  obtain ⟨hlt, hopening, hboundary⟩ := opening_of_finds hform hfound
  refine ⟨found.whole.stop.offset, hlt, hboundary.le_size, hopening, rfl, fun stop hcloses ↦ ?_,
    fun hnone ↦ ?_⟩
  · dsimp only at hcloses ⊢
    rw [hcloses, Option.map_some, Option.getD_some, String.toList_ofList]
    exact hasBody_of_closingBrace? hboundary hcloses
  · dsimp only at hnone ⊢
    rw [hnone]
    rfl

/-- Each function that is found under a name has that name, which is neither empty nor `async`, and
stands in the code; so does every declaration that a later one of its name has replaced. -/
theorem standsIn_of_mem_declarations (code : List Char) :
    (∀ entry ∈ declarations code, entry.2.name = entry.1 ∧ entry.1 ≠ "" ∧ entry.1 ≠ "async" ∧
      ∃ bodyStart, entry.2.StandsIn code bodyStart) ∧
    ∀ d ∈ allDeclarations code, ∃ bodyStart, d.StandsIn code bodyStart := by
  have hall : ∀ d ∈ allDeclarations code, d.name ≠ "" ∧ d.name ≠ "async" ∧
      ∃ bodyStart, d.StandsIn code bodyStart := by
    intro d hd
    obtain ⟨form, hform, hd⟩ := List.mem_flatMap.mp hd
    obtain ⟨found, hfound, hdeclaration⟩ := List.mem_filterMap.mp hd
    obtain ⟨hempty, hasync⟩ := name_of_declaration? hdeclaration
    exact ⟨hempty, hasync, standsIn_of_declaration? (endsWith_of_mem_declarationForms hform)
      (finds_of_mem_searchAll hfound) hdeclaration⟩
  refine ⟨fun entry hentry ↦ ?_, fun d hd ↦ (hall d hd).2.2⟩
  obtain ⟨d, hd, rfl⟩ := List.mem_map.mp (Dictionary.mem_of_mem_ofEntries hentry)
  exact ⟨rfl, hall d hd⟩

/-- A method with an empty body behind a name that is not ASCII, and a function whose only closing
brace is in a literal. -/
theorem standsIn_of_mem_declarations_empty_and_open :
    let code := "é()\x7b\x7df:async function(a,b)\x7b'\x7d'".toList
    let method : Declaration := ⟨"é", [], "", false, 0, some 5⟩
    let property : Declaration := ⟨"f", ["a", "b"], "", true, 6, none⟩
    (("é", method) ∈ declarations code ∧ ("f", property) ∈ declarations code) ∧
      (∃ bodyStart, method.StandsIn code bodyStart) ∧
      ∃ bodyStart, property.StandsIn code bodyStart := by
  intro code method property
  have hmethod : ("é", method) ∈ declarations code := by decide +kernel
  have hproperty : ("f", property) ∈ declarations code := by decide +kernel
  exact ⟨⟨hmethod, hproperty⟩, ((standsIn_of_mem_declarations code).1 _ hmethod).2.2.2,
    ((standsIn_of_mem_declarations code).1 _ hproperty).2.2.2⟩

end PluginRecovery.Script
