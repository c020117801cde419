import Mathlib
import PluginRecovery.Text.Replace

/-!
Replacing a part that begins with a sign. A text is left alone where it does not have the sign
(`replaceAll_append_of_notMem`), and where it has the sign at its beginning only and the part does
not stand there (`replaceAll_append_of_not_isPrefix`). The part itself is replaced
(`replaceAll_append_self`), and what follows is searched on from behind it.
-/

set_option autoImplicit false
set_option relaxedAutoImplicit false

namespace PluginRecovery.Text

variable {sign : Char} {tail part new text : List Char}

/-- What is left out is read over. -/
theorem replaceFrom_length_append (part new text rest : List Char) :
    replaceFrom part new text.length (text ++ rest) = replaceFrom part new 0 rest := by
  induction text with
  | nil => rfl
  | cons c text ih => exact ih

theorem replaceAll_cons_of_not_isPrefix {c : Char} {rest : List Char} (h : ¬ part <+: c :: rest) :
    replaceAll part new (c :: rest) = c :: replaceAll part new rest := by
  rw [replaceAll, replaceFrom, if_neg (mt List.isPrefixOf_iff_prefix.mp h), replaceAll]

theorem replaceAll_append_of_notMem (h : sign ∉ text) (rest : List Char) :
    replaceAll (sign :: tail) new (text ++ rest) =
      text ++ replaceAll (sign :: tail) new rest := by
  induction text with
  | nil => rfl
  | cons c text ih =>
    obtain ⟨hne, htext⟩ := not_or.mp (mt List.mem_cons.mpr h)
    rw [List.cons_append, replaceAll_cons_of_not_isPrefix (mt (fun hprefix ↦
      (List.cons_prefix_cons.mp hprefix).1) hne), ih htext, List.cons_append]

theorem replaceAll_append_self (rest : List Char) :
    replaceAll (sign :: tail) new (sign :: tail ++ rest) =
      new ++ replaceAll (sign :: tail) new rest := by
  have hprefix : (sign :: tail).isPrefixOf (sign :: (tail ++ rest)) = true :=
    List.isPrefixOf_iff_prefix.mpr (List.prefix_append (sign :: tail) rest)
  rw [replaceAll, List.cons_append, replaceFrom, if_pos hprefix, List.length_cons,
    Nat.add_sub_cancel, replaceFrom_length_append, replaceAll]

theorem replaceAll_append_of_not_isPrefix {rest : List Char} (htext : sign ∉ text)
    (h : ¬ sign :: tail <+: sign :: text ++ rest) :
    replaceAll (sign :: tail) new (sign :: text ++ rest) =
      sign :: text ++ replaceAll (sign :: tail) new rest := by
  rw [List.cons_append] at h ⊢
  rw [replaceAll_cons_of_not_isPrefix h, replaceAll_append_of_notMem htext, List.cons_append]

end PluginRecovery.Text
