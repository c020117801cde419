import PluginRecovery.Json.Basic

/-!
Reading records out of JSON. A record is an object, whose members may come in any order and among
others, or an array of its fields in their order.
-/

set_option autoImplicit false
set_option relaxedAutoImplicit false

namespace PluginRecovery.Json

/-- The fields of a record that are there. In a `positional` one, written as an array, a field
without a default may not be left out. -/
structure Fields where
  values : List (String × Json)
  positional : Bool

/-- The members with one of the given names; none if a name occurs twice or is no text. -/
def fieldsOfMembers (names : List String) :
    List (Option String × Json) → Option (List (String × Json))
  | [] => some []
  | (none, _) :: _ => none
  | (some name, value) :: rest =>
    match fieldsOfMembers names rest with
    | none => none
    | some fields =>
      if !names.contains name then some fields
      else if (fields.lookup name).isSome then none
      else some ((name, value) :: fields)

/-- The fields of a record with the given field names. -/
def fields? (names : List String) : Json → Option Fields
  | .object members => (fieldsOfMembers names members).map fun values => ⟨values, false⟩
  | .array items => if items.length ≤ names.length then some ⟨names.zip items, true⟩ else none
  | _ => none

namespace Fields

variable {α : Type}

/-- A field that must be there. -/
def required (fields : Fields) (name : String) (decode : Json → Option α) : Option α :=
  (fields.values.lookup name).bind decode

/-- A field with a default. -/
def withDefault (fields : Fields) (name : String) (decode : Json → Option α) (default : α) :
    Option α :=
  match fields.values.lookup name with
  | none => some default
  | some value => decode value

/-- A value or `null`. -/
def nullable (decode : Json → Option α) : Json → Option (Option α)
  | .null => some none
  | value => (decode value).map some

/-- A field that may be `null` or missing; an array has no gaps. -/
def optional (fields : Fields) (name : String) (decode : Json → Option α) : Option (Option α) :=
  match fields.values.lookup name with
  | none => if fields.positional then none else some none
  | some value => nullable decode value

end Fields

def bool? : Json → Option Bool
  | .bool b => some b
  | _ => none

def list? {α : Type} (decode : Json → Option α) : Json → Option (List α)
  | .array items => items.mapM decode
  | _ => none

/-- The name of a case without contents: alone, or as the one member of an object, with `null`. -/
def caseName? : Json → Option String
  | .string name => name
  | .object [(name, .null)] => name
  | _ => none

/-- The contents of a record with the one case `name`: a field `type` with the name of the case and
a field for the contents. -/
def tagged? (contentName caseName : String) (j : Json) : Option String := do
  let fields ← fields? ["type", contentName] j
  let found ← fields.required "type" caseName?
  let contents ← fields.required contentName text?
  if found = caseName then some contents else none

end PluginRecovery.Json
