import Mathlib

/-!
Texts with a sign between their parts: what is in them is the sign or in a part, each part stands in
the text as it is, and so what is in a part of a text that is split is in the text.
-/

set_option autoImplicit false
set_option relaxedAutoImplicit false

namespace PluginRecovery.Text

theorem mem_of_mem_intercalate {sign c : Char} {parts : List (List Char)}
    (h : c ∈ [sign].intercalate parts) : c = sign ∨ ∃ part ∈ parts, c ∈ part := by
  induction parts with
  | nil => exact absurd h List.not_mem_nil
  | cons part parts ih =>
    cases parts with
    | nil =>
      rw [List.intercalate_singleton] at h
      exact .inr ⟨part, List.mem_cons_self, h⟩
    | cons next parts =>
      rw [List.intercalate_cons_cons, List.append_assoc, List.mem_append, List.singleton_append,
        List.mem_cons] at h
      rcases h with h | h | h
      · exact .inr ⟨part, List.mem_cons_self, h⟩
      · exact .inl h
      · exact (ih h).imp_right fun ⟨other, hother, hc⟩ ↦ ⟨other, List.mem_cons_of_mem _ hother, hc⟩

/-- A part stands in the text as it is. -/
theorem isInfix_intercalate_of_mem (sign : Char) {part : List Char} {parts : List (List Char)}
    (hpart : part ∈ parts) : part <:+: [sign].intercalate parts := by
  induction parts with
  | nil => exact absurd hpart List.not_mem_nil
  | cons first parts ih =>
    cases parts with
    | nil => rw [List.intercalate_singleton, List.mem_singleton.mp hpart]
    | cons next parts =>
      rw [List.intercalate_cons_cons]
      rcases List.mem_cons.mp hpart with rfl | hpart
      · rw [List.append_assoc]
        exact List.infix_append_left
      · exact (ih hpart).trans (List.suffix_append (first ++ [sign]) _).isInfix

theorem mem_intercalate_of_mem (sign : Char) {c : Char} {part : List Char}
    {parts : List (List Char)} (hpart : part ∈ parts) (hc : c ∈ part) :
    c ∈ [sign].intercalate parts :=
  (isInfix_intercalate_of_mem sign hpart).subset hc

theorem mem_of_mem_splitOn {sign c : Char} {text part : List Char}
    (hpart : part ∈ text.splitOn sign) (hc : c ∈ part) : c ∈ text := by
  have hmem := mem_intercalate_of_mem sign hpart hc
  rwa [List.intercalate_splitOn] at hmem

end PluginRecovery.Text
