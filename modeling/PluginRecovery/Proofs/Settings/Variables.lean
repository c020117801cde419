import Mathlib
import PluginRecovery.Proofs.Settings.Overlay
import PluginRecovery.Proofs.Text.LetterCase
import PluginRecovery.Settings.Layers

/-!
Which variables of the environment set a setting. The name of a variable counts in lower case and
with points for double underscores; the two changes commute (`lower_pointsForUnderscores`), so that a
variable is for a setting in a table exactly when its name in lower case is spelled in one of two
ways: our mark, the table, a double underscore or a point, the setting
(`PlainNames.map_variableKey?_eq_iff`). Of the variables for a setting the last one counts
(`given?_ofEnvironment`).
-/

set_option autoImplicit false
set_option relaxedAutoImplicit false

namespace PluginRecovery.Settings

open PluginRecovery.Text
open Setting (given? leads nested spelledOut)

theorem pointsForUnderscores_cons {c : Char} {rest : List Char}
    (h : c = '_' → rest.head? ≠ some '_') :
    pointsForUnderscores (c :: rest) = c :: pointsForUnderscores rest := by
  rw [pointsForUnderscores]
  rintro more rfl rfl
  exact h rfl rfl

/-- A piece without underscores is kept. -/
theorem pointsForUnderscores_append {front : List Char} (h : '_' ∉ front) (rest : List Char) :
    pointsForUnderscores (front ++ rest) = front ++ pointsForUnderscores rest := by
  induction front with
  | nil => rfl
  | cons c front ih =>
    rw [List.mem_cons, not_or] at h
    rw [List.cons_append, pointsForUnderscores_cons fun hc ↦ absurd hc.symm h.1, ih h.2]
    rfl

/-- Points for underscores, and then lower case, is lower case, and then points for underscores. -/
theorem lower_pointsForUnderscores (text : List Char) :
    lower (pointsForUnderscores text) = pointsForUnderscores (lower text) := by
  induction text using pointsForUnderscores.induct with
  | case1 rest ih =>
    change '.' :: lower (pointsForUnderscores rest) = '.' :: pointsForUnderscores (lower rest)
    rw [ih]
  | case2 c rest hpair ih =>
    have hhead : c = '_' → rest.head? ≠ some '_' := by
      intro hc hrest
      obtain ⟨more, hmore⟩ := List.head?_eq_some_iff.mp hrest
      exact hpair more hc hmore
    rw [pointsForUnderscores_cons hhead, lower_cons, lower_cons, ih]
    by_cases hc : c = '_'
    · subst hc
      have hlower : '_' = '_' → (lower rest).head? ≠ some '_' :=
        fun _ hrest ↦ hhead rfl (head?_eq_underscore_of_lower hrest)
      exact (pointsForUnderscores_cons hlower).symm
    · exact (pointsForUnderscores_append (fun h ↦ hc (eq_underscore_of_mem_lowerForm h)) _).symm
  | case3 => rfl

/-- What a point comes from, and what any other character comes from. -/
theorem pointsForUnderscores_eq_cons {text rest : List Char} {c : Char}
    (h : pointsForUnderscores text = c :: rest) :
    ∃ text', pointsForUnderscores text' = rest ∧
      (text = c :: text' ∨ c = '.' ∧ text = '_' :: '_' :: text') := by
  unfold pointsForUnderscores at h
  split at h
  · next text' =>
    obtain ⟨rfl, hrest⟩ := List.cons.inj h
    exact ⟨text', hrest, Or.inr ⟨rfl, rfl⟩⟩
  · next first text' _ =>
    obtain ⟨rfl, hrest⟩ := List.cons.inj h
    exact ⟨text', hrest, Or.inl rfl⟩
  · exact absurd h (by simp)

theorem eq_nil_of_pointsForUnderscores {text : List Char} (h : pointsForUnderscores text = []) :
    text = [] := by
  cases text with
  | nil => rfl
  | cons c rest =>
    unfold pointsForUnderscores at h
    split at h
    · exact absurd h (List.cons_ne_nil _ _)
    · exact absurd h (List.cons_ne_nil _ _)
    · assumption

theorem pointsForUnderscores_eq_append {text front rest : List Char} (hpoint : '.' ∉ front)
    (h : pointsForUnderscores text = front ++ rest) :
    ∃ text', pointsForUnderscores text' = rest ∧ text = front ++ text' := by
  induction front generalizing text with
  | nil => exact ⟨text, h, rfl⟩
  | cons c front ih =>
    rw [List.mem_cons, not_or] at hpoint
    obtain ⟨next, hnext, hcases⟩ := pointsForUnderscores_eq_cons h
    obtain ⟨text', hrest, rfl⟩ := ih hpoint.2 hnext
    refine ⟨text', hrest, ?_⟩
    rcases hcases with htext | ⟨hc, -⟩
    · exact htext
    · exact absurd hc.symm hpoint.1

/-- The key of a variable, by its name in lower case. -/
theorem variableKey?_eq_some_iff {name key : String} :
    variableKey? name = some key ↔
      ∃ rest, lower name.toList = variableMark ++ rest ∧
        pointsForUnderscores rest = key.toList := by
  unfold variableKey?
  extract_lets chars
  rw [Option.ite_none_right_eq_some, Option.some.injEq, List.isPrefixOf_iff_prefix]
  constructor
  · rintro ⟨hmark, rfl⟩
    have hlower := lower_eq_append_lower_drop hmark (by decide)
    refine ⟨lower (chars.drop variableMark.length), hlower, ?_⟩
    rw [String.toList_ofList, lower_pointsForUnderscores]
  · rintro ⟨rest, hlower, hkey⟩
    have hmark : variableMark <+: lower chars := ⟨rest, hlower.symm⟩
    refine ⟨hmark, ?_⟩
    rw [lower_eq_append_lower_drop hmark (by decide)] at hlower
    rw [lower_pointsForUnderscores, List.append_cancel_left hlower, hkey, String.ofList_toList]

/-- The only key that spells a path of two names has a point between them. -/
theorem eq_of_pathOf_eq_pair {key outer inner : String} (h : Setting.pathOf key = [outer, inner]) :
    key.toList = outer.toList ++ '.' :: inner.toList := by
  unfold Setting.pathOf at h
  extract_lets parts at h
  split_ifs at h
  · have hparts : parts = [outer.toList, inner.toList] := by
      have hmap := congrArg (List.map String.toList) h
      simpa [Function.comp_def] using hmap
    have hjoin := @List.intercalate_splitOn _ key.toList _ _ '.'
    rw [List.splitOn] at hjoin
    change ['.'].intercalate parts = key.toList at hjoin
    rw [← hjoin, hparts]
    simp [List.intercalate]
  · simp at h

/-- A table's name and the name of a setting in it that are read as they are written, in keys and in
variables. -/
structure PlainNames (outer inner : String) : Prop where
  outer_noPoint : '.' ∉ outer.toList
  inner_noPoint : '.' ∉ inner.toList
  outer_noUnderscore : '_' ∉ outer.toList
  inner_noPair : pointsForUnderscores inner.toList = inner.toList
  pathOf_eq : Setting.pathOf (outer ++ "." ++ inner) = [outer, inner]

/-- The names of the variables for a setting in a table, in lower case. -/
def variablesFor (outer inner : String) : List (List Char) :=
  [['_', '_'], ['.']].map fun between ↦
    "jsconv__".toList ++ (outer.toList ++ (between ++ inner.toList))

/-- The path of a setting is spelled with two underscores or with the point itself, and in no other
way. -/
theorem PlainNames.pointsForUnderscores_eq_iff {outer inner : String} (h : PlainNames outer inner)
    (text : List Char) :
    pointsForUnderscores text = outer.toList ++ '.' :: inner.toList ↔
      text = outer.toList ++ '_' :: '_' :: inner.toList ∨
        text = outer.toList ++ '.' :: inner.toList := by
  constructor
  · intro htext
    obtain ⟨next, hnext, rfl⟩ := pointsForUnderscores_eq_append h.outer_noPoint htext
    obtain ⟨last, hlast, hcases⟩ := pointsForUnderscores_eq_cons hnext
    obtain ⟨behind, hbehind, rfl⟩ :=
      pointsForUnderscores_eq_append h.inner_noPoint (hlast.trans (List.append_nil _).symm)
    obtain rfl := eq_nil_of_pointsForUnderscores hbehind
    rw [List.append_nil] at hcases
    rcases hcases with rfl | ⟨-, rfl⟩
    · exact Or.inr rfl
    · exact Or.inl rfl
  · rintro (rfl | rfl)
    · rw [pointsForUnderscores_append h.outer_noUnderscore, pointsForUnderscores, h.inner_noPair]
    · rw [pointsForUnderscores_append h.outer_noUnderscore, pointsForUnderscores_cons (by simp),
        h.inner_noPair]

/-- The variables for a setting in a table, in any case of letters. -/
theorem PlainNames.map_variableKey?_eq_iff {outer inner : String} (h : PlainNames outer inner)
    (name : String) :
    (variableKey? name).map Setting.pathOf = some [outer, inner] ↔
      lower name.toList ∈ variablesFor outer inner := by
  have hchars : (outer ++ "." ++ inner).toList = outer.toList ++ '.' :: inner.toList := by
    simp
  have hkey : (variableKey? name).map Setting.pathOf = some [outer, inner] ↔
      variableKey? name = some (outer ++ "." ++ inner) := by
    rw [Option.map_eq_some_iff]
    constructor
    · rintro ⟨key, hname, hpath⟩
      have hsame : key.toList = (outer ++ "." ++ inner).toList :=
        (eq_of_pathOf_eq_pair hpath).trans hchars.symm
      rw [hname, String.toList_inj.mp hsame]
    · intro hname
      exact ⟨_, hname, h.pathOf_eq⟩
  rw [hkey, variableKey?_eq_some_iff, hchars, variablesFor, List.map_cons, List.map_cons,
    List.map_nil, List.mem_pair]
  simp only [h.pointsForUnderscores_eq_iff]
  constructor
  · rintro ⟨rest, hlower, rfl | rfl⟩
    · exact Or.inl hlower
    · exact Or.inr hlower
  · rintro (hlower | hlower)
    · exact ⟨_, hlower, Or.inl rfl⟩
    · exact ⟨_, hlower, Or.inr rfl⟩

/-- A variable has no table for a value. -/
theorem isTable_variableValue (text : String) : (variableValue text).isTable = false := by
  unfold variableValue
  split_ifs
  · rfl
  · rfl
  · cases Decimal.int64? text.toList with
    | some n => rfl
    | none => cases environmentFloat? text.toList <;> rfl

/-- What the environment gives for a setting is the value of the last variable for it. -/
theorem given?_ofEnvironment {outer inner : String} (hplain : PlainNames outer inner)
    {env : Environment} (h : leads [outer, inner] (spelledOut (ofEnvironment env)) = true) :
    given? [outer, inner] (spelledOut (ofEnvironment env)) =
      env.reverse.findSome? fun entry ↦
        if lower entry.1.toList ∈ variablesFor outer inner then some (variableValue entry.2)
        else none := by
  induction env with
  | nil => rfl
  | cons entry rest ih =>
    obtain ⟨name, value⟩ := entry
    have hname := hplain.map_variableKey?_eq_iff name
    rw [List.reverse_cons, List.findSome?_append, List.findSome?_singleton]
    dsimp only
    cases hkey : variableKey? name with
    | none =>
      have hrest : ofEnvironment ((name, value) :: rest) = ofEnvironment rest := by
        simp [ofEnvironment, hkey]
      rw [hrest] at h ⊢
      rw [hkey] at hname
      rw [ih h, if_neg (fun hmem ↦ absurd (hname.mpr hmem) (by simp)), Option.or_none]
    | some key =>
      have hrest : ofEnvironment ((name, value) :: rest) =
          (key, variableValue value) :: ofEnvironment rest := by
        simp [ofEnvironment, hkey]
      rw [hrest] at h ⊢
      rw [Setting.leads_spelledOut_cons] at h
      rw [hkey, Option.map_some, Option.some.injEq] at hname
      have hplace := Setting.given?_nested (isTable_variableValue value) h.1
      simp only [Setting.given?_spelledOut_cons, ih h.2, hplace, hname]

end PluginRecovery.Settings
