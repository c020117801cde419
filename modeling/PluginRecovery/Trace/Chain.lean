import PluginRecovery.Pattern.Search
import PluginRecovery.Trace.Event

/-!
Ordered attempts at one field. The steps of a chain run in order until one yields a value, and each
step leaves one event.
-/

set_option autoImplicit false
set_option relaxedAutoImplicit false

namespace PluginRecovery

inductive Miss where
  | noMatch
  | unbalanced (offset : Nat)
  | rejected (candidate : String)
  | exhausted (steps : Nat)
  deriving DecidableEq, Repr

def Miss.message : Miss → String
  | .noMatch => "pattern did not match"
  | .unbalanced offset => "no matching closing brace after offset " ++ toString offset
  | .rejected candidate => "candidate rejected: " ++ candidate
  | .exhausted steps => "all " ++ toString steps ++ " steps missed"

/-- A value, or why there is none. -/
abbrev Attempt (α : Type) := Except Miss α

/-- Values that have a short text for reports. -/
class Summary (α : Type) where
  summary : α → String

/-- The first 120 characters stand for a text. -/
instance : Summary String where
  summary s := String.ofList (s.toList.take 120)

/-- One labelled way to find a value in a text. -/
structure Step (α : Type) where
  label : String
  attempt : List Char → Attempt α

/-- The steps that are tried for a field. -/
structure Chain (α : Type) where
  field : String
  steps : List (Step α)

namespace Chain

variable {α : Type}

def labels (chain : Chain α) : List String :=
  chain.steps.map Step.label

/-- The value of the first step that has one, with the events of the steps up to it. -/
def firstOf [Summary α] (field : String) (text : List Char) : List (Step α) → Traced (Option α)
  | [] => pure none
  | step :: rest =>
    match step.attempt text with
    | .ok value => do
      Traced.record (.matched field step.label (Summary.summary value))
      return some value
    | .error miss => do
      Traced.record (.missed field step.label miss.message)
      firstOf field text rest

/-- The value of the first step that has one. -/
def resolve [Summary α] (chain : Chain α) (text : List Char) : Traced (Attempt α) := do
  match ← firstOf chain.field text chain.steps with
  | some value => return .ok value
  | none => return .error (.exhausted chain.steps.length)

/-- The value of the first step that has one, else the default, with an event for it. -/
def resolveOr [Summary α] (chain : Chain α) (text : List Char) (default : α) : Traced α := do
  match ← chain.resolve text with
  | .ok value => return value
  | .error _ =>
    Traced.record (.defaulted chain.field (Summary.summary default))
    return default

end Chain

/-- A labelled pattern whose group 1 is the candidate. -/
structure Form where
  label : String
  pattern : Pattern

/-- What group 1 of the leftmost match holds; the whole match when the group took no part. -/
def Pattern.capture? (p : Pattern) (text : List Char) : Option String :=
  (p.search? text).map fun found => String.ofList ((found.group? 1).getD found.whole).text

/-- The step that takes a form's candidate if it is acceptable. Only the leftmost match counts. -/
def Form.step (accepts : String → Bool) (form : Form) : Step String where
  label := form.label
  attempt text :=
    match form.pattern.capture? text with
    | none => .error .noMatch
    | some candidate => if accepts candidate then .ok candidate else .error (.rejected candidate)

/-- The chain that tries the forms in order. -/
def Chain.ofForms (field : String) (forms : List Form) (accepts : String → Bool) :
    Chain String where
  field := field
  steps := forms.map (Form.step accepts)

end PluginRecovery
