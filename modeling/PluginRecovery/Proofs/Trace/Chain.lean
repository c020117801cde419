import Mathlib
import PluginRecovery.Trace.Chain

/-!
What a chain yields: the value of the first step that has one (`toOption_resolve`), which its events
name (`exists_step_of_resolve`), or the default in its place (`value_resolveOr`). For a chain of
forms that is the first acceptable capture (`first?_ofForms`).
-/

set_option autoImplicit false
set_option relaxedAutoImplicit false

namespace PluginRecovery.Chain

variable {α : Type}

/-- The value of the first step that has one. -/
def first? (chain : Chain α) (text : List Char) : Option α :=
  chain.steps.findSome? fun step ↦ (step.attempt text).toOption

variable [Summary α]

theorem value_firstOf (field : String) (text : List Char) (steps : List (Step α)) :
    (firstOf field text steps).value = steps.findSome? fun step ↦ (step.attempt text).toOption := by
  induction steps with
  | nil => rfl
  | cons step steps ih =>
    rw [firstOf, List.findSome?_cons]
    cases step.attempt text with
    | ok value => rfl
    | error miss => exact ih

theorem events_resolve (chain : Chain α) (text : List Char) :
    (chain.resolve text).events = (firstOf chain.field text chain.steps).events := by
  rw [resolve, Traced.events_bind]
  cases (firstOf chain.field text chain.steps).value <;> exact List.append_nil _

/-- A chain resolves to the value of the first step that has one. -/
theorem toOption_resolve (chain : Chain α) (text : List Char) :
    (chain.resolve text).value.toOption = chain.first? text := by
  rw [first?, ← value_firstOf chain.field text chain.steps, resolve, Traced.value_bind]
  cases (firstOf chain.field text chain.steps).value <;> rfl

/-- A chain that resolves does so through one of its steps, which its events name. -/
theorem exists_step_of_resolve {chain : Chain α} {text : List Char} {value : α}
    (h : (chain.resolve text).value = .ok value) :
    ∃ step ∈ chain.steps, step.attempt text = .ok value ∧
      matchedStep? chain.field (chain.resolve text).events = some step.label := by
  have hsteps {steps : List (Step α)} (h : (firstOf chain.field text steps).value = some value) :
      ∃ step ∈ steps, step.attempt text = .ok value ∧
        matchedStep? chain.field (firstOf chain.field text steps).events = some step.label := by
    induction steps with
    | nil => exact absurd h (Option.some_ne_none value).symm
    | cons step steps ih =>
      rw [firstOf] at h ⊢
      cases hattempt : step.attempt text with
      | ok other =>
        simp only [hattempt] at h ⊢
        obtain rfl := Option.some.inj h
        exact ⟨step, List.mem_cons_self, hattempt, if_pos rfl⟩
      | error miss =>
        simp only [hattempt] at h ⊢
        obtain ⟨found, hfound, hvalue, hlabel⟩ := ih h
        exact ⟨found, List.mem_cons_of_mem step hfound, hvalue, hlabel⟩
  have hfirst : (firstOf chain.field text chain.steps).value = some value := by
    rw [value_firstOf, ← first?, ← toOption_resolve, h]
    rfl
  rw [events_resolve]
  exact hsteps hfirst

/-- A chain with a default resolves to the value of the first step that has one, or the default. -/
theorem value_resolveOr (chain : Chain α) (text : List Char) (default : α) :
    (chain.resolveOr text default).value = (chain.first? text).getD default := by
  rw [← toOption_resolve, resolveOr, Traced.value_bind]
  cases (chain.resolve text).value <;> rfl

/-- A chain of forms yields the first acceptable capture of a form. -/
theorem first?_ofForms (field : String) (forms : List Form) (accepts : String → Bool)
    (text : List Char) :
    (ofForms field forms accepts).first? text =
      forms.findSome? fun form ↦ (form.pattern.capture? text).filter accepts := by
  have hstep (form : Form) : ((form.step accepts).attempt text).toOption =
      (form.pattern.capture? text).filter accepts := by
    simp only [Form.step]
    cases form.pattern.capture? text with
    | none => rfl
    | some candidate => cases h : accepts candidate <;> simp [Option.filter, h, Except.toOption]
  rw [first?, ofForms, List.findSome?_map]
  exact congrArg (List.findSome? · forms) (funext hstep)

/-- What a chain of forms yields is acceptable. -/
theorem accepts_of_first?_ofForms {field : String} {forms : List Form} {accepts : String → Bool}
    {text : List Char} {candidate : String}
    (h : (ofForms field forms accepts).first? text = some candidate) :
    accepts candidate = true := by
  rw [first?_ofForms] at h
  obtain ⟨form, -, hcapture⟩ := List.exists_of_findSome?_eq_some h
  exact (Option.filter_eq_some_iff.mp hcapture).2

end PluginRecovery.Chain
