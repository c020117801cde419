import Mathlib
import PluginRecovery.Json.Fields
import PluginRecovery.Proofs.Json.PrintedText

/-!
Decoding what was encoded. An object whose members have different names, all of them names of
fields, is read as these fields (`fields?_obj`), and lists and values that may be absent are decoded
as what was encoded if their contents are.
-/

set_option autoImplicit false
set_option relaxedAutoImplicit false

namespace PluginRecovery.Json

variable {α : Type} {encode : α → Json} {decode : Json → Option α}

/-- Members with the right names, none of them twice, are the fields as they stand. -/
theorem fieldsOfMembers_named {names : List String} {members : List (String × Json)}
    (hnames : members.map Prod.fst ⊆ names) (hnodup : (members.map Prod.fst).Nodup) :
    fieldsOfMembers names (named members) = some members := by
  induction members with
  | nil => rfl
  | cons member members ih =>
    obtain ⟨name, value⟩ := member
    rw [List.map_cons, List.cons_subset] at hnames
    rw [List.map_cons, List.nodup_cons] at hnodup
    have hfresh : (members.lookup name).isSome = false := by
      rw [← Bool.not_eq_true, List.lookup_isSome_iff]
      rintro ⟨entry, hentry, hname⟩
      exact hnodup.1 (List.mem_map.mpr ⟨entry, hentry, (eq_of_beq hname).symm⟩)
    change fieldsOfMembers names ((some name, value) :: named members) = _
    simp [fieldsOfMembers, ih hnames.2 hnodup.2, hnames.1, hfresh]

/-- An object with different fields of a record has these fields. -/
theorem fields?_obj {names : List String} {members : List (String × Json)}
    (hnames : members.map Prod.fst ⊆ names) (hnodup : (members.map Prod.fst).Nodup) :
    fields? names (obj members) = some ⟨members, false⟩ :=
  congrArg (Option.map (Fields.mk · false)) (fieldsOfMembers_named hnames hnodup)

/-- A list is had back if each of its items is. -/
theorem list?_list (h : ∀ a, decode (encode a) = some a) (items : List α) :
    list? decode (list encode items) = some items :=
  mapM_map fun a _ ↦ h a

/-- What may be `null` is told from it if the encoding of a value is not `null`. -/
theorem nullable_ofOption (h : ∀ a, decode (encode a) = some a) (hnull : ∀ a, encode a ≠ .null)
    (value : Option α) : Fields.nullable decode (ofOption encode value) = some value := by
  cases value with
  | none => rfl
  | some a =>
    rw [ofOption, Fields.nullable, h]
    · rfl
    · exact hnull a

theorem ofOption_eq (encode : α → Json) (value : Option α) :
    ofOption encode value = (value.map encode).getD .null := by
  cases value <;> rfl

@[simp] theorem text?_text (s : String) : text? (text s) = some s :=
  rfl

@[simp] theorem nullable_text (value : Option String) :
    Fields.nullable text? (ofOption text value) = some value :=
  nullable_ofOption text?_text (fun _ ↦ Json.noConfusion) value

/-! ### Values that can be written -/

theorem written_list (h : ∀ a, (encode a).Written) (items : List α) :
    (list encode items).Written :=
  .array (List.forall_mem_map.mpr fun a _ ↦ h a)

theorem written_ofOption (h : ∀ a, (encode a).Written) (value : Option α) :
    (ofOption encode value).Written := by
  cases value with
  | none => exact .null
  | some a => exact h a

end PluginRecovery.Json
