import Mathlib
import PluginRecovery.Proofs.Trace.Account

/-!
How a chain comes out, with all that it reports. `Resolves` says which result and which events the
steps lead to: those before the first success have missed, each for a reason of its own, and those
behind it leave no trace. A chain does what the relation says and nothing else, whatever has been
reported before (`resolve_traced`). With a default it does the same, and says so when it takes the
default (`resolveOr_eq_iff`).
-/

set_option autoImplicit false
set_option relaxedAutoImplicit false

namespace PluginRecovery

/-- What is reported behind an earlier report stands behind its events, which stay as they are. -/
theorem Traced.behind_eq_iff {β : Type} (earlier : Traced Unit) (later : Traced β) (value : β)
    (log : List Event) : (earlier >>= fun _ ↦ later) = ⟨value, log⟩ ↔
      ∃ events, later = ⟨value, events⟩ ∧ log = earlier.events ++ events := by
  obtain ⟨value', events⟩ := later
  constructor
  · intro h
    obtain ⟨rfl, rfl⟩ := Traced.mk.inj h
    exact ⟨events, rfl, rfl⟩
  · rintro ⟨events', h, rfl⟩
    obtain ⟨rfl, rfl⟩ := Traced.mk.inj h
    rfl

namespace Chain

variable {α : Type} {steps : List (Step α)} {text : List Char} {misses : List Miss}

/-! ### Steps that miss -/

/-- No step has a value for the text, each for the reason at its place. -/
def MissFor (steps : List (Step α)) (text : List Char) (misses : List Miss) : Prop :=
  List.Forall₂ (fun step miss ↦ step.attempt text = .error miss) steps misses

/-- What the steps report that miss: one event each, with the step's own reason. -/
def missEvents (field : String) (steps : List (Step α)) (misses : List Miss) : List Event :=
  List.zipWith (fun step miss ↦ .missed field step.label miss.message) steps misses

/-- All steps miss, or one has a value and all before it miss. -/
theorem exists_missFor_or (steps : List (Step α)) (text : List Char) :
    (∃ misses, MissFor steps text misses) ∨
      ∃ missed step later misses value, steps = missed ++ step :: later ∧
        MissFor missed text misses ∧ step.attempt text = .ok value := by
  induction steps with
  | nil => exact .inl ⟨[], .nil⟩
  | cons step steps ih =>
    cases hattempt : step.attempt text with
    | ok value => exact .inr ⟨[], step, steps, [], value, rfl, .nil, hattempt⟩
    | error miss =>
      rcases ih with ⟨misses, hall⟩ | ⟨missed, first, later, misses, value, rfl, hmissed, hvalue⟩
      · exact .inl ⟨miss :: misses, .cons hattempt hall⟩
      · exact .inr ⟨step :: missed, first, later, miss :: misses, value, rfl,
          .cons hattempt hmissed, hvalue⟩

variable [Summary α]

/-- Steps that miss are passed over, with their events in front of what follows. -/
theorem firstOf_append (field : String) (h : MissFor steps text misses) (rest : List (Step α)) :
    firstOf field text (steps ++ rest) =
      ⟨(firstOf field text rest).value,
        missEvents field steps misses ++ (firstOf field text rest).events⟩ := by
  induction h with
  | nil => rfl
  | cons hattempt _ ih =>
    rw [List.cons_append, firstOf, hattempt]
    simp only [ih]
    rfl

/-! ### Outcomes of a chain -/

/-- The chain comes out with the result and reports the events: the first step that has a value is
behind steps that all miss, or all steps of the chain miss. -/
inductive Resolves (chain : Chain α) (text : List Char) : Attempt α → List Event → Prop
  | matched {missed later : List (Step α)} {step : Step α} {misses : List Miss} {value : α}
    (hsteps : chain.steps = missed ++ step :: later) (hmissed : MissFor missed text misses)
    (hvalue : step.attempt text = .ok value) :
    Resolves chain text (.ok value)
      (missEvents chain.field missed misses ++
        [.matched chain.field step.label (Summary.summary value)])
  | exhausted {misses : List Miss} (hmissed : MissFor chain.steps text misses) :
    Resolves chain text (.error (.exhausted chain.steps.length))
      (missEvents chain.field chain.steps misses)

namespace Resolves

variable {chain : Chain α} {result : Attempt α} {events : List Event}

/-- A chain has the one result and the one log that `Resolves` allows. -/
theorem resolve_eq (h : chain.Resolves text result events) :
    chain.resolve text = ⟨result, events⟩ := by
  cases h with
  | matched hsteps hmissed hvalue =>
    rw [resolve, hsteps, firstOf_append _ hmissed, firstOf, hvalue]
    exact congrArg (Traced.mk _) (List.append_nil _)
  | exhausted hmissed =>
    have hnone := firstOf_append chain.field hmissed []
    rw [List.append_nil] at hnone
    rw [resolve, hnone]
    exact congrArg (Traced.mk _) ((List.append_nil _).trans (List.append_nil _))

theorem field_eq (h : chain.Resolves text result events) :
    ∀ event ∈ events, event.field = chain.field := by
  intro event hevent
  have hevents : (chain.resolve text).events = events := congrArg Traced.events h.resolve_eq
  rw [← hevents, events_resolve] at hevent
  exact field_eq_of_mem_firstOf hevent

end Resolves

/-- Every chain resolves on every text. -/
theorem exists_resolves (chain : Chain α) (text : List Char) :
    ∃ result events, chain.Resolves text result events := by
  rcases exists_missFor_or chain.steps text with
    ⟨misses, hall⟩ | ⟨missed, step, later, misses, value, hsteps, hmissed, hvalue⟩
  · exact ⟨_, _, .exhausted hall⟩
  · exact ⟨_, _, .matched hsteps hmissed hvalue⟩

/-- A chain comes out in one way only, and `Resolves` tells which. -/
theorem resolve_eq_iff (chain : Chain α) (text : List Char) (result : Attempt α)
    (events : List Event) :
    chain.resolve text = ⟨result, events⟩ ↔ chain.Resolves text result events := by
  refine ⟨fun h ↦ ?_, Resolves.resolve_eq⟩
  obtain ⟨result', events', hresolves⟩ := chain.exists_resolves text
  obtain ⟨rfl, rfl⟩ := Traced.mk.inj (hresolves.resolve_eq.symm.trans h)
  exact hresolves

/-- With a default, a chain comes out with a step's value as it does without, or with the default
and an event for it behind those of the misses. -/
theorem resolveOr_eq_iff (chain : Chain α) (text : List Char) (default value : α)
    (events : List Event) :
    chain.resolveOr text default = ⟨value, events⟩ ↔
      chain.Resolves text (.ok value) events ∨
        value = default ∧ ∃ miss missed, chain.Resolves text (.error miss) missed ∧
          events = missed ++ [.defaulted chain.field (Summary.summary default)] := by
  obtain ⟨result, missed, hresolves⟩ := chain.exists_resolves text
  have hunique {other : Attempt α} {events : List Event} (h : chain.Resolves text other events) :
      other = result ∧ events = missed :=
    Traced.mk.inj (h.resolve_eq.symm.trans hresolves.resolve_eq)
  cases result with
  | ok found =>
    have hfound : chain.resolveOr text default = ⟨found, missed⟩ := by
      rw [resolveOr, hresolves.resolve_eq]
      exact congrArg (Traced.mk found) (List.append_nil missed)
    rw [hfound, Traced.mk.injEq]
    constructor
    · rintro ⟨rfl, rfl⟩
      exact .inl hresolves
    · rintro (hvalue | ⟨-, miss, _, hmiss, -⟩)
      · obtain ⟨hvalue, rfl⟩ := hunique hvalue
        exact ⟨(Except.ok.inj hvalue).symm, rfl⟩
      · exact absurd (hunique hmiss).1 (by simp)
  | error miss =>
    have hmissed : chain.resolveOr text default =
        ⟨default, missed ++ [.defaulted chain.field (Summary.summary default)]⟩ := by
      rw [resolveOr, hresolves.resolve_eq]
      rfl
    rw [hmissed, Traced.mk.injEq]
    constructor
    · rintro ⟨rfl, rfl⟩
      exact .inr ⟨rfl, miss, missed, hresolves, rfl⟩
    · rintro (hvalue | ⟨rfl, _, _, hmiss, rfl⟩)
      · exact absurd (hunique hvalue).1 (by simp)
      · exact ⟨rfl, by rw [(hunique hmiss).2]⟩

/-- A chain yields the value of its first step that has one. Behind all that has been reported
before, it reports one miss for each step before that one, with that step's own reason, and then the
step that matched. When no step has a value it yields their number, behind one miss for each. With a
default, it yields the same value with the same events, or the default, with one event for it
behind the misses. All these events are about the chain's field. -/
theorem resolve_traced (chain : Chain α) (text : List Char) (default : α) (earlier : Traced Unit) :
    (∀ result log, (earlier >>= fun _ ↦ chain.resolve text) = ⟨result, log⟩ ↔
      ∃ events, chain.Resolves text result events ∧ log = earlier.events ++ events) ∧
    (∀ value log, (earlier >>= fun _ ↦ chain.resolveOr text default) = ⟨value, log⟩ ↔
      (∃ events, chain.Resolves text (.ok value) events ∧ log = earlier.events ++ events) ∨
        value = default ∧ ∃ miss missed, chain.Resolves text (.error miss) missed ∧
          log = earlier.events ++
            (missed ++ [.defaulted chain.field (Summary.summary default)])) ∧
    ∀ result events, chain.Resolves text result events →
      ∀ event ∈ events, event.field = chain.field := by
  refine ⟨fun result log ↦ ?_, fun value log ↦ ?_, fun _ _ h ↦ h.field_eq⟩
  · simp only [Traced.behind_eq_iff, resolve_eq_iff]
  · simp only [Traced.behind_eq_iff, resolveOr_eq_iff]
    constructor
    · rintro ⟨events, hvalue | ⟨rfl, miss, missed, hmissed, rfl⟩, rfl⟩
      · exact .inl ⟨events, hvalue, rfl⟩
      · exact .inr ⟨rfl, miss, missed, hmissed, rfl⟩
    · rintro (⟨events, hvalue, rfl⟩ | ⟨rfl, miss, missed, hmissed, rfl⟩)
      · exact ⟨events, .inl hvalue, rfl⟩
      · exact ⟨_, .inr ⟨rfl, miss, missed, hmissed, rfl⟩, rfl⟩

/-- Four steps miss for the four reasons, the last of them because it tries two steps of its own;
the fifth has a value, and the sixth is not tried. -/
theorem resolve_traced_four_misses :
    let inner : Chain String :=
      ⟨"inner", [⟨"x", fun _ ↦ .error .noMatch⟩, ⟨"y", fun _ ↦ .error (.rejected "b")⟩]⟩
    let chain : Chain String :=
      ⟨"name", [⟨"none", fun _ ↦ .error .noMatch⟩, ⟨"open", fun _ ↦ .error (.unbalanced 7)⟩,
        ⟨"short", fun _ ↦ .error (.rejected "a")⟩,
        ⟨"nested", fun text ↦ (inner.resolve text).value⟩,
        ⟨"found", fun text ↦ .ok (String.ofList text)⟩, ⟨"late", fun _ ↦ .ok "late"⟩]⟩
    let earlier := Traced.record (.accepted "search" "listing function present")
    let events := [.missed "name" "none" "pattern did not match",
      .missed "name" "open" "no matching closing brace after offset 7",
      .missed "name" "short" "candidate rejected: a",
      .missed "name" "nested" "all 2 steps missed", .matched "name" "found" "Foo"]
    chain.Resolves "Foo".toList (.ok "Foo") events ∧ (∀ event ∈ events, event.field = "name") ∧
      (earlier >>= fun _ ↦ chain.resolve "Foo".toList) =
        ⟨.ok "Foo", .accepted "search" "listing function present" :: events⟩ := by
  intro inner chain earlier events
  have hevents : (chain.resolve "Foo".toList).events = events := by decide +kernel
  have hresolved : chain.resolve "Foo".toList = ⟨.ok "Foo", events⟩ := by
    rw [← hevents]
    rfl
  have hrun := (earlier.behind_eq_iff _ _ _).mpr ⟨events, hresolved, rfl⟩
  obtain ⟨hresolve, -, hfield⟩ := resolve_traced chain "Foo".toList "" earlier
  obtain ⟨events', hresolves, hlog⟩ := (hresolve _ _).mp hrun
  obtain rfl : events = events' := (List.cons.inj hlog).2
  exact ⟨hresolves, hfield _ _ hresolves, hrun⟩

end Chain

end PluginRecovery
