import Mathlib
import PluginRecovery.Script.Literal

/-!
Quoted texts and their escapes. Escapes are replaced one kind after the other, in four passes over
the text. As long as no backslash is escaped itself, the text is made of units, a character each
with or without a backslash before it, and a pass neither makes nor breaks a unit that a later one
replaces: `unescape_flatten` says that the four passes are one that reads unit after unit. So they
undo any way of writing characters as units that stand for them (`unescape_flatMap`).
-/

set_option autoImplicit false
set_option relaxedAutoImplicit false

namespace PluginRecovery.Script

/-! ### Units -/

/-- A character that is no backslash, or a backslash with such a character. -/
def EscapeUnit (unit : List Char) : Prop :=
  ∃ c, c ≠ '\\' ∧ (unit = [c] ∨ unit = ['\\', c])

/-- What the replacement of the escape of `letter` makes of a unit. -/
def resolve (letter meaning : Char) (unit : List Char) : List Char :=
  if unit = ['\\', letter] then [meaning] else unit

/-- What a unit stands for. -/
def denoted (unit : List Char) : List Char :=
  resolve '\'' '\'' (resolve '"' '"' (resolve 't' '\t' (resolve 'n' '\n' unit)))

/-- A replacement makes units of units. -/
theorem escapeUnit_of_mem_map_resolve {units : List (List Char)} {letter meaning : Char}
    (h : ∀ unit ∈ units, EscapeUnit unit) (hmeaning : meaning ≠ '\\') :
    ∀ unit ∈ units.map (resolve letter meaning), EscapeUnit unit := by
  intro resolved hresolved
  obtain ⟨unit, hunit, rfl⟩ := List.mem_map.mp hresolved
  unfold resolve
  split_ifs
  · exact ⟨meaning, hmeaning, Or.inl rfl⟩
  · exact h unit hunit

/-- A pass keeps every character that is no backslash. -/
theorem replaceEscape_cons {c : Char} (hc : c ≠ '\\') (letter meaning : Char)
    (rest : List Char) :
    replaceEscape letter meaning (c :: rest) = c :: replaceEscape letter meaning rest := by
  rw [replaceEscape]
  rintro next tail rfl
  exact absurd rfl hc

/-- A replacement works on each unit for itself. -/
theorem replaceEscape_flatten {units : List (List Char)} (h : ∀ unit ∈ units, EscapeUnit unit)
    (letter meaning : Char) :
    replaceEscape letter meaning units.flatten =
      (units.map (resolve letter meaning)).flatten := by
  induction units with
  | nil => simp [replaceEscape]
  | cons unit units ih =>
    obtain ⟨c, hc, hunit⟩ := h unit List.mem_cons_self
    have hrest := ih fun u hu ↦ h u (List.mem_cons_of_mem unit hu)
    rw [List.flatten_cons, List.map_cons, List.flatten_cons, ← hrest]
    rcases hunit with rfl | rfl
    · rw [List.singleton_append, replaceEscape_cons hc, resolve, if_neg (by simp)]
      rfl
    · rw [List.cons_append, List.singleton_append, replaceEscape, replaceEscape_cons hc, resolve]
      by_cases hletter : c = letter
      · rw [if_pos hletter, if_pos (by rw [hletter])]
        rfl
      · rw [if_neg hletter, if_neg (by simpa using hletter)]
        rfl

/-- The four replacements together put for each unit what it stands for. -/
theorem unescape_flatten {units : List (List Char)} (h : ∀ unit ∈ units, EscapeUnit unit) :
    unescape units.flatten = (units.map denoted).flatten := by
  have hnewline := @escapeUnit_of_mem_map_resolve units 'n' '\n' h (by decide)
  have htab := @escapeUnit_of_mem_map_resolve _ 't' '\t' hnewline (by decide)
  have hdouble := @escapeUnit_of_mem_map_resolve _ '"' '"' htab (by decide)
  rw [unescape, replaceEscape_flatten h, replaceEscape_flatten hnewline,
    replaceEscape_flatten htab, replaceEscape_flatten hdouble]
  simp only [List.map_map]
  rfl

/-- The replacements undo the writing of each character as a unit that stands for it. -/
theorem unescape_flatMap {f : Char → List Char} {text : List Char}
    (h : ∀ c ∈ text, EscapeUnit (f c) ∧ denoted (f c) = [c]) :
    unescape (text.flatMap f) = text := by
  have hunits : ∀ unit ∈ text.map f, EscapeUnit unit :=
    List.forall_mem_map.mpr fun c hc ↦ (h c hc).1
  have hdenoted : (text.map f).map denoted = text.map fun c ↦ [c] := by
    rw [List.map_map]
    exact List.map_congr_left fun c hc ↦ (h c hc).2
  rw [List.flatMap_def, unescape_flatten hunits, hdenoted, ← List.flatMap_def,
    List.flatMap_singleton']

/-! ### Ends -/

/-- What stands between two ends is found there. -/
theorem between?_enclosed (first last : Char) (body : List Char) :
    between? first last (first :: body ++ [last]) = some body := by
  simp [between?]

/-- Nothing stands between two marks of which the first is not in the text. -/
theorem between?_eq_none {first last : Char} {text : List Char} (h : first ∉ text) :
    between? first last text = none := by
  cases text with
  | nil => rfl
  | cons c rest =>
    rw [between?, if_neg]
    rintro ⟨rfl, -⟩
    exact h List.mem_cons_self

/-- What is put between the marks is what is left without them. -/
@[simp] theorem stripEnds_enclosed (first last : Char) (body : List Char) :
    stripEnds first last (first :: body ++ [last]) = body := by
  rw [stripEnds, between?_enclosed]
  rfl

/-- A text of two characters or more is its ends with something between them. -/
theorem exists_enclosed {first last : Char} {text : List Char}
    (h : 2 ≤ text.length ∧ text.head? = some first ∧ text.getLast? = some last) :
    ∃ body, text = first :: body ++ [last] := by
  obtain ⟨hlength, hfirst, hlast⟩ := h
  obtain ⟨rest, rfl⟩ := List.head?_eq_some_iff.mp hfirst
  have hne : rest ≠ [] := by
    rintro rfl
    exact absurd hlength (by simp)
  rw [List.getLast?_cons_of_ne_nil hne] at hlast
  obtain ⟨body, rfl⟩ := List.getLast?_eq_some_iff.mp hlast
  exact ⟨body, rfl⟩

/-- A text that has not both ends, or has one character for both, is left as it is. -/
theorem stripEnds_eq_self {first last : Char} {text : List Char}
    (h : ¬ (2 ≤ text.length ∧ text.head? = some first ∧ text.getLast? = some last)) :
    stripEnds first last text = text := by
  cases text with
  | nil => rfl
  | cons c rest =>
    rw [stripEnds, between?, if_neg]
    · rfl
    · rintro ⟨rfl, hlast⟩
      have hne : rest ≠ [] := by
        rintro rfl
        exact absurd hlast (by simp)
      refine h ⟨?_, rfl, ?_⟩
      · exact Nat.succ_le_succ (List.length_pos_of_ne_nil hne)
      · rw [List.getLast?_cons, hlast]
        rfl

/-- The text is as it was exactly if it has not both marks, each at its own end. -/
theorem stripEnds_eq_self_iff {first last : Char} {text : List Char} :
    stripEnds first last text = text ↔
      ¬ (2 ≤ text.length ∧ text.head? = some first ∧ text.getLast? = some last) := by
  refine ⟨fun h hends ↦ ?_, stripEnds_eq_self⟩
  obtain ⟨body, rfl⟩ := exists_enclosed hends
  rw [stripEnds_enclosed] at h
  have hlength := congrArg List.length h
  rw [List.length_append, List.length_cons, List.length_singleton] at hlength
  omega

theorem mem_of_mem_stripEnds {first last c : Char} {text : List Char}
    (h : c ∈ stripEnds first last text) : c ∈ text := by
  by_cases hends : 2 ≤ text.length ∧ text.head? = some first ∧ text.getLast? = some last
  · obtain ⟨body, rfl⟩ := exists_enclosed hends
    rw [stripEnds_enclosed] at h
    exact List.mem_append_left _ (List.mem_cons_of_mem first h)
  · rwa [stripEnds_eq_self hends] at h

/-- Where only a quote is written with a quote at an end, the quotes at the ends of what is written
are those of the text. -/
theorem stripEnds_flatMap {quote : Char} {f : Char → List Char} {text : List Char}
    (hquote : f quote = [quote])
    (h : ∀ c ∈ text, f c ≠ [] ∧
      ((f c).head? = some quote ∨ (f c).getLast? = some quote → c = quote)) :
    stripEnds quote quote (text.flatMap f) = (stripEnds quote quote text).flatMap f := by
  by_cases hends : 2 ≤ text.length ∧ text.head? = some quote ∧ text.getLast? = some quote
  · obtain ⟨body, rfl⟩ := exists_enclosed hends
    rw [stripEnds_enclosed, List.flatMap_append, List.flatMap_cons, List.flatMap_singleton, hquote,
      List.singleton_append, stripEnds_enclosed]
  · rw [stripEnds_eq_self hends]
    refine stripEnds_eq_self ?_
    rintro ⟨hlength, hfirst, hlast⟩
    refine hends ?_
    cases text with
    | nil => exact absurd hlength (by simp)
    | cons c rest =>
      obtain ⟨hne, hc⟩ := h c List.mem_cons_self
      rw [List.flatMap_cons, List.head?_append_of_ne_nil _ hne] at hfirst
      obtain rfl := hc (Or.inl hfirst)
      obtain rfl | ⟨front, d, rfl⟩ := List.eq_nil_or_concat' rest
      · rw [List.flatMap_singleton, hquote] at hlength
        exact absurd hlength (by simp)
      · obtain ⟨hne', hd⟩ := h d (by simp)
        rw [← List.cons_append, List.flatMap_append, List.flatMap_singleton,
          List.getLast?_append_of_ne_nil _ hne'] at hlast
        obtain rfl := hd (Or.inr hlast)
        exact ⟨by simp, rfl, by rw [← List.cons_append, List.getLast?_concat]⟩

end PluginRecovery.Script
