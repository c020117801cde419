/-!
What an analysis reports about its decisions. A traced value carries its events, in the order in
which they arose.
-/

set_option autoImplicit false
set_option relaxedAutoImplicit false

namespace PluginRecovery

/-- One decision, about the named field. -/
inductive Event where
  | matched (field step value : String)
  | missed (field step reason : String)
  | accepted (field detail : String)
  | rejected (field reason : String)
  | defaulted (field value : String)
  deriving DecidableEq, Repr

def Event.field : Event → String
  | .matched field _ _ => field
  | .missed field _ _ => field
  | .accepted field _ => field
  | .rejected field _ => field
  | .defaulted field _ => field

/-- The step that first gave a value to the field, if one did. -/
def matchedStep? (field : String) : List Event → Option String
  | [] => none
  | .matched f step _ :: rest => if f = field then some step else matchedStep? field rest
  | _ :: rest => matchedStep? field rest

def isDefaulted (field : String) (events : List Event) : Bool :=
  events.any fun
    | .defaulted f _ => f == field
    | _ => false

/-- A value and the decisions that led to it. -/
structure Traced (α : Type) where
  value : α
  events : List Event

namespace Traced

variable {α β : Type}

/-- A value that took no decision. -/
def pure (a : α) : Traced α :=
  ⟨a, []⟩

/-- First the one, then the other with its value. -/
def bind (t : Traced α) (f : α → Traced β) : Traced β :=
  let next := f t.value
  ⟨next.value, t.events ++ next.events⟩

instance : Monad Traced where
  pure := Traced.pure
  bind := Traced.bind

def record (event : Event) : Traced Unit :=
  ⟨(), [event]⟩

@[simp] theorem value_pure (a : α) : (Pure.pure a : Traced α).value = a := rfl

@[simp] theorem events_pure (a : α) : (Pure.pure a : Traced α).events = [] := rfl

@[simp] theorem value_bind (t : Traced α) (f : α → Traced β) :
    (t >>= f).value = (f t.value).value := rfl

@[simp] theorem events_bind (t : Traced α) (f : α → Traced β) :
    (t >>= f).events = t.events ++ (f t.value).events := rfl

end Traced

end PluginRecovery
