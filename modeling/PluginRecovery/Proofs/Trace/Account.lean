import Mathlib
import PluginRecovery.Proofs.Trace.Chain

/-!
What the events of a field tell about the value that is stored for it. `Accounts` is the form of
such a report: steps that missed, and then the step that matched, or the default, or nothing when
there is none. A chain with a default writes one (`Chain.accounts_resolveOr`). In a longer report
the events of a field are `Gathered` when they stand together, and a report of that form never has
both a match and a default for the field (`not_matchedStep?_and_isDefaulted`).
-/

set_option autoImplicit false
set_option relaxedAutoImplicit false

namespace PluginRecovery

/-! ### Accounts of a field -/

/-- The events account for what is stored for a field that has the given default: some steps missed,
and then one matched, with the first 120 characters of the stored text; or none matched, and the
stored text is the default; or there is none, and nothing is stored. -/
inductive Accounts (field : String) (default : Option String) : Option String → List Event → Prop
  | missed (step reason : String) {stored : Option String} {rest : List Event}
    (h : Accounts field default stored rest) :
    Accounts field default stored (.missed field step reason :: rest)
  | matched (step value : String) :
    Accounts field default (some value)
      [.matched field step (String.ofList (value.toList.take 120))]
  | defaulted {value : String} (h : default = some value) :
    Accounts field default (some value) [.defaulted field value]
  | nothing (h : default = none) : Accounts field default none []

namespace Accounts

variable {field : String} {default stored : Option String} {events : List Event}

/-- Every event of an account is one of its field. -/
theorem field_eq (h : Accounts field default stored events) : ∀ event ∈ events,
    event.field = field := by
  induction h with
  | missed step reason _ ih => exact List.forall_mem_cons.mpr ⟨rfl, ih⟩
  | matched step value => exact List.forall_mem_singleton.mpr rfl
  | defaulted => exact List.forall_mem_singleton.mpr rfl
  | nothing => simp

/-- A field does not take its default when a step matched. -/
theorem not_matched_and_defaulted (h : Accounts field default stored events)
    {step value other : String} (hmatched : .matched field step value ∈ events) :
    .defaulted field other ∉ events := by
  induction h with
  | missed _ _ _ ih => simpa using ih (by simpa using hmatched)
  | matched => simp
  | defaulted => simp at hmatched
  | nothing => simp

end Accounts

namespace Chain

variable {α : Type} [Summary α]

theorem field_eq_of_mem_firstOf {field : String} {text : List Char} {steps : List (Step α)}
    {event : Event} (h : event ∈ (firstOf field text steps).events) : event.field = field := by
  induction steps with
  | nil => exact absurd h List.not_mem_nil
  | cons step steps ih =>
    rw [firstOf] at h
    cases hattempt : step.attempt text with
    | ok value =>
      simp only [hattempt] at h
      exact List.mem_singleton.mp h ▸ rfl
    | error miss =>
      simp only [hattempt] at h
      rcases List.mem_cons.mp h with rfl | h
      · rfl
      · exact ih h

/-- The steps of a chain begin an account: of the value of the first that has one, or, when none
has, of whatever the events after them account for. -/
theorem accounts_firstOf {field : String} {text : List Char} {steps : List (Step String)}
    {default stored : Option String} {rest : List Event}
    (hfound : ∀ value ∈ (firstOf field text steps).value, stored = some value ∧ rest = [])
    (hmissed : (firstOf field text steps).value = none → Accounts field default stored rest) :
    Accounts field default stored ((firstOf field text steps).events ++ rest) := by
  induction steps with
  | nil => exact hmissed rfl
  | cons step steps ih =>
    rw [firstOf] at hfound hmissed ⊢
    cases hattempt : step.attempt text with
    | ok value =>
      simp only [hattempt] at hfound
      obtain ⟨rfl, rfl⟩ := hfound value rfl
      exact .matched step.label value
    | error miss =>
      simp only [hattempt] at hfound hmissed
      exact .missed step.label miss.message (ih hfound hmissed)

/-- A chain with a short default accounts for what it resolves to. -/
theorem accounts_resolveOr (chain : Chain String) (text : List Char) {default : String}
    (hdefault : Summary.summary default = default) :
    Accounts chain.field (some default) (some (chain.resolveOr text default).value)
      (chain.resolveOr text default).events := by
  have hvalue : (chain.resolveOr text default).value =
      ((firstOf chain.field text chain.steps).value).getD default := by
    rw [value_resolveOr, first?, value_firstOf]
  have hevents : (chain.resolveOr text default).events =
      (firstOf chain.field text chain.steps).events ++
        if (firstOf chain.field text chain.steps).value.isNone then
          [.defaulted chain.field default] else [] := by
    rw [resolveOr, Traced.events_bind, events_resolve, resolve, Traced.value_bind]
    cases (firstOf chain.field text chain.steps).value with
    | none => exact congrArg (fun said ↦ _ ++ [Event.defaulted chain.field said]) hdefault
    | some value => rfl
  rw [hvalue, hevents]
  refine accounts_firstOf (fun value hfound ↦ ?_) fun hmissed ↦ ?_
  · simp [Option.mem_def.mp hfound]
  · rw [hmissed, Option.isNone_none, if_pos rfl, Option.getD_none]
    exact .defaulted rfl

end Chain

/-! ### Events that stand together -/

/-- The events of the field stand together, as the block. -/
def Gathered (field : String) (events block : List Event) : Prop :=
  ∃ front back, events = front ++ block ++ back ∧ (∀ event ∈ front, event.field ≠ field) ∧
    (∀ event ∈ block, event.field = field) ∧ ∀ event ∈ back, event.field ≠ field

namespace Gathered

variable {field : String} {events block : List Event}

/-- Events of one field are all of its block. -/
theorem self (h : ∀ event ∈ block, event.field = field) : Gathered field block block :=
  ⟨[], [], by simp, by simp, h, by simp⟩

/-- Where no event is of the field its block is empty. -/
theorem absent (h : ∀ event ∈ events, event.field ≠ field) : Gathered field events [] :=
  ⟨events, [], by simp, h, by simp, by simp⟩

/-- Events of other fields may come before. -/
theorem after {front : List Event} (hfront : ∀ event ∈ front, event.field ≠ field)
    (h : Gathered field events block) : Gathered field (front ++ events) block := by
  obtain ⟨before, back, rfl, hbefore, hblock, hback⟩ := h
  exact ⟨front ++ before, back, by simp, List.forall_mem_append.mpr ⟨hfront, hbefore⟩, hblock,
    hback⟩

/-- Events of other fields may come after. -/
theorem before {back : List Event} (hback : ∀ event ∈ back, event.field ≠ field)
    (h : Gathered field events block) : Gathered field (events ++ back) block := by
  obtain ⟨front, after, rfl, hfront, hblock, hafter⟩ := h
  exact ⟨front, after ++ back, by simp, hfront, hblock,
    List.forall_mem_append.mpr ⟨hafter, hback⟩⟩

theorem mem_block (h : Gathered field events block) {event : Event} (hevent : event ∈ events)
    (hfield : event.field = field) : event ∈ block := by
  obtain ⟨front, back, rfl, hfront, -, hback⟩ := h
  rcases List.mem_append.mp hevent with hevent | hevent
  · rcases List.mem_append.mp hevent with hevent | hevent
    · exact absurd hfield (hfront event hevent)
    · exact hevent
  · exact absurd hfield (hback event hevent)

end Gathered

theorem exists_mem_of_matchedStep? {field : String} {events : List Event}
    (h : (matchedStep? field events).isSome = true) :
    ∃ step value, .matched field step value ∈ events := by
  induction events with
  | nil => simp [matchedStep?] at h
  | cons event events ih =>
    cases event with
    | matched other step value =>
      rw [matchedStep?] at h
      split_ifs at h with heq
      · exact ⟨step, value, heq ▸ List.mem_cons_self⟩
      · obtain ⟨step, value, hmem⟩ := ih h
        exact ⟨step, value, List.mem_cons_of_mem _ hmem⟩
    | missed | accepted | rejected | defaulted =>
      obtain ⟨step, value, hmem⟩ := ih h
      exact ⟨step, value, List.mem_cons_of_mem _ hmem⟩

theorem exists_mem_of_isDefaulted {field : String} {events : List Event}
    (h : isDefaulted field events = true) : ∃ value, .defaulted field value ∈ events := by
  obtain ⟨event, hevent, hfield⟩ := List.any_eq_true.mp h
  cases event with
  | defaulted other value =>
    obtain rfl := eq_of_beq hfield
    exact ⟨value, hevent⟩
  | matched | missed | accepted | rejected => exact absurd hfield Bool.false_ne_true

/-- A report whose events of a field stand together as an account has no match beside a default. -/
theorem not_matchedStep?_and_isDefaulted {field : String} {events block : List Event}
    {default stored : Option String} (hgathered : Gathered field events block)
    (h : block = [] ∨ Accounts field default stored block) :
    ¬ ((matchedStep? field events).isSome = true ∧ isDefaulted field events = true) := by
  rintro ⟨hmatched, hdefaulted⟩
  obtain ⟨step, value, hmatched⟩ := exists_mem_of_matchedStep? hmatched
  obtain ⟨other, hdefaulted⟩ := exists_mem_of_isDefaulted hdefaulted
  have hmatched' := hgathered.mem_block hmatched rfl
  have hdefaulted' := hgathered.mem_block hdefaulted rfl
  rcases h with rfl | haccounts
  · exact List.not_mem_nil hmatched'
  · exact haccounts.not_matched_and_defaulted hmatched' hdefaulted'

end PluginRecovery
