import Mathlib
import PluginRecovery.Proofs.Script.ValueReading
import PluginRecovery.Proofs.Text.Separation
import PluginRecovery.Proofs.Text.Trimming
import PluginRecovery.Proofs.Url.Domain.Capitals

/-!
Names of hosts within ASCII. A name that is made of labels in small letters is brought into the form
that it has already (`ascii?_intercalate`), and such labels are what any name is brought into
(`exists_labels_of_ascii?`): the form of a form is the same (`ascii?_of_ascii?`).
-/

set_option autoImplicit false
set_option relaxedAutoImplicit false

namespace PluginRecovery.Domain

open PluginRecovery.Text

/-! ### Plain labels -/

/-- Within ASCII, without capital letters and points. -/
def IsPlainLabel (label : List Char) : Prop :=
  ∀ c ∈ label, c.toNat < 128 ∧ c.isUpper = false ∧ c ≠ '.'

theorem formOf?_eq_self {c : Char} (hascii : c.toNat < 128) (hsmall : c.isUpper = false) :
    formOf? c = some [c] := by
  have hlower : c.isUpper = false → c.toLower = c :=
    forall_of_ofNat (P := fun c ↦ c.isUpper = false → c.toLower = c) (by decide) hascii
  rw [formOf?, if_pos hascii, hlower hsmall]

theorem formsOf_eq_self {name : List Char} (h : ∀ c ∈ name, c.toNat < 128 ∧ c.isUpper = false) :
    name.mapM formOf? = some (name.map fun c ↦ [c]) :=
  Script.mapM_eq_some_of_forall₂ <| List.forall₂_map_right_iff.mpr <| List.forall₂_same.mpr
    fun c hc ↦ formOf?_eq_self (h c hc).1 (h c hc).2

/-- A name with plain labels has its form already. -/
theorem ascii?_intercalate {labels : List (List Char)} (hne : labels ≠ [])
    (hplain : ∀ label ∈ labels, IsPlainLabel label) :
    ascii? (['.'].intercalate labels) =
      if isName labels then some (['.'].intercalate labels) else none := by
  have hchars : ∀ c ∈ ['.'].intercalate labels, c.toNat < 128 ∧ c.isUpper = false := by
    intro c hc
    rcases mem_of_mem_intercalate hc with rfl | ⟨label, hlabel, hc⟩
    · decide
    · exact (hplain label hlabel c hc).imp_right And.left
  have hself : compose (['.'].intercalate labels) = ['.'].intercalate labels :=
    if_pos (List.all_eq_true.mpr fun c hc ↦ decide_eq_true (hchars c hc).1)
  have hlabels : labels.map asciiLabel = labels :=
    (List.map_congr_left fun label hlabel ↦ if_pos <| List.all_eq_true.mpr
      fun c hc ↦ decide_eq_true (hplain label hlabel c hc).1).trans (List.map_id' labels)
  rw [ascii?, formsOf_eq_self hchars, Option.bind_eq_bind, Option.bind_some, ← List.flatMap_def,
    List.flatMap_singleton', hself, List.splitOn_intercalate '.' (fun label hlabel hpoint ↦
      (hplain label hlabel '.' hpoint).2.2 rfl) hne, hlabels]

/-! ### Encoded labels -/

theorem digit_of_lt : ∀ value < 36, (Punycode.digit value).toNat < 128 ∧
    (Punycode.digit value).isUpper = false ∧ Punycode.digit value ≠ '.' := by
  decide

theorem isPlainLabel_encodedMark : IsPlainLabel encodedMark := by
  have hmark : encodedMark = ['x', 'n', '-', '-'] := String.toList_ofList
  rw [hmark]
  refine List.forall_mem_cons.mpr ⟨by decide, List.forall_mem_cons.mpr ⟨by decide, ?_⟩⟩
  exact List.forall_mem_cons.mpr ⟨by decide, List.forall_mem_singleton.mpr (by decide)⟩

/-- A number is encoded in a plain label. -/
theorem isPlainLabel_encodeNumber (bias position value : ℕ) :
    IsPlainLabel (Punycode.encodeNumber bias position value) := by
  induction value using Nat.strong_induction_on generalizing position with
  | h value ih =>
    have hle := Punycode.threshold_le position bias
    have hone := Punycode.one_le_threshold position bias
    rw [Punycode.encodeNumber]
    split_ifs with hlast
    · exact List.forall_mem_singleton.mpr (digit_of_lt _ (by omega))
    · have hmod := Nat.mod_lt (value - Punycode.threshold position bias)
        (show 36 - Punycode.threshold position bias > 0 by omega)
      have hdiv := Nat.div_le_self (value - Punycode.threshold position bias)
        (36 - Punycode.threshold position bias)
      exact List.forall_mem_cons.mpr ⟨digit_of_lt _ (by omega), ih _ (by omega) _⟩

theorem isPlainLabel_written_pass {basic point : ℕ} {e : Punycode.Encoder}
    (h : IsPlainLabel e.written) (c : Char) : IsPlainLabel (e.pass basic point c).written := by
  rw [Punycode.Encoder.pass]
  split_ifs
  · exact h
  · refine List.forall_mem_append.mpr ⟨fun d hd ↦ ?_, h⟩
    exact isPlainLabel_encodeNumber _ _ _ d (List.mem_reverse.mp hd)
  · exact h

theorem isPlainLabel_written_place (label : List Char) (basic : ℕ) (points : List ℕ) (next : ℕ)
    (e : Punycode.Encoder) (h : IsPlainLabel e.written) :
    IsPlainLabel (Punycode.Encoder.place label basic points next e).written := by
  induction points generalizing next e with
  | nil => exact h
  | cons point points ih =>
    rw [Punycode.Encoder.place]
    refine ih _ _ (List.foldlRecOn label _
      (motive := fun e : Punycode.Encoder ↦ IsPlainLabel e.written) ?_
      fun e he c _ ↦ isPlainLabel_written_pass he c)
    exact h

/-- The form of a label in small letters is plain. -/
theorem isPlainLabel_asciiLabel {label : List Char} (hsmall : ∀ c ∈ label, c.isUpper = false)
    (hpoint : '.' ∉ label) : IsPlainLabel (asciiLabel label) := by
  have hne : ∀ c ∈ label, c ≠ '.' := fun c hc heq ↦ hpoint (heq ▸ hc)
  rw [asciiLabel]
  split_ifs with hascii
  · exact fun c hc ↦ ⟨of_decide_eq_true (List.all_eq_true.mp hascii c hc), hsmall c hc, hne c hc⟩
  · refine List.forall_mem_append.mpr ⟨isPlainLabel_encodedMark, ?_⟩
    rw [Punycode.encode]
    refine List.forall_mem_append.mpr
      ⟨List.forall_mem_append.mpr ⟨fun c hc ↦ ?_, ?_⟩, fun c hc ↦ ?_⟩
    · obtain ⟨hc, hlt⟩ := List.mem_filter.mp hc
      exact ⟨of_decide_eq_true hlt, hsmall c hc, hne c hc⟩
    · split_ifs
      · exact List.forall_mem_nil _
      · exact List.forall_mem_singleton.mpr (by decide)
    · refine isPlainLabel_written_place _ _ _ _ _ ?_ c (List.mem_reverse.mp hc)
      exact List.forall_mem_nil _

/-! ### Forms of names -/

/-- The form of a name is made of plain labels. -/
theorem exists_labels_of_ascii? {name form : List Char} (h : ascii? name = some form) :
    ∃ labels, labels ≠ [] ∧ (∀ label ∈ labels, IsPlainLabel label) ∧ isName labels = true ∧
      form = ['.'].intercalate labels := by
  obtain ⟨forms, hforms, h⟩ := Option.bind_eq_some_iff.mp h
  dsimp only at h
  split_ifs at h with hname
  refine ⟨_, ?_, ?_, hname, (Option.some.inj h).symm⟩
  · simp
  · have hsmall : ∀ c ∈ compose forms.flatten, c.isUpper = false := by
      refine isUpper_of_mem_compose fun c hc ↦ ?_
      obtain ⟨form, hform, hc⟩ := List.mem_flatten.mp hc
      obtain ⟨d, -, hd⟩ := Script.exists_of_mem_mapM hforms form hform
      exact isUpper_of_mem_formOf? hd c hc
    rw [List.forall_mem_map]
    intro label hlabel
    refine isPlainLabel_asciiLabel (fun c hc ↦ hsmall c (mem_of_mem_splitOn hlabel hc))
      fun hpoint ↦ ?_
    rw [List.splitOn_eq_splitOnP] at hlabel
    simpa using eq_false_of_mem_splitOnP hlabel '.' hpoint

/-- The form of a form is the same. -/
theorem ascii?_of_ascii? {name form : List Char} (h : ascii? name = some form) :
    ascii? form = some form := by
  obtain ⟨labels, hne, hplain, hname, rfl⟩ := exists_labels_of_ascii? h
  rw [ascii?_intercalate hne hplain, if_pos hname]

/-- What the form of a name is written in. -/
theorem of_mem_ascii? {name form : List Char} (h : ascii? name = some form) :
    ∀ c ∈ form, c.toNat < 128 ∧ isForbidden c = false := by
  obtain ⟨labels, -, hplain, hname, rfl⟩ := exists_labels_of_ascii? h
  rw [isName, Bool.and_eq_true, Bool.not_eq_true'] at hname
  intro c hc
  rcases mem_of_mem_intercalate hc with rfl | ⟨label, hlabel, hc⟩
  · decide
  · refine ⟨(hplain label hlabel c hc).1, ?_⟩
    have hlabel := List.any_eq_false.mp hname.1 label hlabel
    simpa using List.any_eq_false.mp (Bool.eq_false_iff.mpr hlabel) c hc

end PluginRecovery.Domain
