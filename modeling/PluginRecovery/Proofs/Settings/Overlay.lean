import Mathlib
import PluginRecovery.Settings.Tree

/-!
What is at a path after one tree of settings is laid over another. In the tree a path is followed to
the first entry of each name (`Setting.find?`). In what is laid over it a name may come more than
once, and the last entry that has something at the path counts (`Setting.given?`). If the incoming
tree has tables all along the path and none at its end (`Setting.leads`), `find?_overlaid` says that
the path has what the incoming tree gives, or else what it had. Keys of a source that spell paths are
tables in tables (`spelledOut`), so that `find?_overSource` says the same of whole sources.
-/

set_option autoImplicit false
set_option relaxedAutoImplicit false

namespace PluginRecovery.Setting

/-! ### Paths -/

/-- What is at a path, by the first entry of each name. -/
def find? : List String → Setting → Option Setting
  | [], s => some s
  | name :: path, s => (s.entries.lookup name).bind (find? path)

/-- What a value gives for a path: of entries of one name the last that gives something counts. -/
def given? : List String → Setting → Option Setting
  | [], s => some s
  | name :: path, s =>
    s.entries.reverse.findSome? fun (other, value) =>
      if other = name then given? path value else none

def isTable : Setting → Bool
  | .table _ => true
  | _ => false

/-- On the way along the path there are tables, and at its end is none. -/
def leads : List String → Setting → Bool
  | [], s => !s.isTable
  | name :: path, s =>
    s.isTable && s.entries.all fun (other, value) => other != name || leads path value

/-- The value as the only one in a table in a table, and so on, down the path. -/
def nested (value : Setting) : List String → Setting
  | [] => value
  | name :: path => .table [(name, nested value path)]

/-- A source as one table, with its keys as paths. -/
def spelledOut (source : List (String × Setting)) : Setting :=
  .table (source.flatMap fun (key, value) => (nested value (pathOf key)).entries)

@[simp] theorem entries_table (es : List (String × Setting)) : (table es).entries = es :=
  rfl

theorem find?_cons (name : String) (path : List String) (s : Setting) :
    find? (name :: path) s = (s.entries.lookup name).bind (find? path) :=
  rfl

/-- Past the end of a table there is nothing, and so there is at `null`. -/
theorem find?_valueOf {path : List String} (hne : path ≠ []) (name : String)
    (es : List (String × Setting)) :
    find? path (valueOf name es) = (es.lookup name).bind (find? path) := by
  rw [valueOf]
  cases es.lookup name with
  | none =>
    obtain ⟨first, rest, rfl⟩ := List.exists_cons_of_ne_nil hne
    rfl
  | some value => rfl

/-- What was put last under a name is what stands there. -/
theorem lookup_put_self (name : String) (value : Setting) (es : List (String × Setting)) :
    (put name value es).lookup name = some value := by
  induction es with
  | nil => simp [put]
  | cons entry rest ih =>
    rw [put]
    by_cases hname : entry.1 = name
    · rw [if_pos hname, List.lookup_cons_self]
    · rw [if_neg hname, List.lookup_cons, beq_false_of_ne (Ne.symm hname)]
      exact ih

/-- The other names keep what they have. -/
theorem lookup_put_of_ne {name other : String} (hne : other ≠ name) (value : Setting)
    (es : List (String × Setting)) : (put name value es).lookup other = es.lookup other := by
  induction es with
  | nil => rw [put, List.lookup_cons, beq_false_of_ne hne]
  | cons entry rest ih =>
    obtain ⟨first, old⟩ := entry
    rw [put]
    by_cases hname : first = name
    · rw [if_pos hname, List.lookup_cons, List.lookup_cons, hname, beq_false_of_ne hne]
    · rw [if_neg hname, List.lookup_cons, List.lookup_cons, ih]

/-! ### Laying over -/

/-- One entry put into a table changes what is at the paths that begin with its name. -/
theorem find?_put_self {name : String} {path : List String} {base : List (String × Setting)}
    {value laid : Setting}
    (hlaid : find? path laid = (given? path value).or (find? path (valueOf name base))) :
    find? (name :: path) (.table (put name laid base)) =
      (given? path value).or (find? (name :: path) (.table base)) := by
  rw [find?_cons, entries_table, lookup_put_self, Option.bind_some, hlaid, find?_cons,
    entries_table]
  cases path with
  | nil => rfl
  | cons next rest => rw [find?_valueOf (List.cons_ne_nil next rest)]

/-- Of two lists of entries in a row the second gives the value, if it gives one. -/
theorem given?_append (name : String) (path : List String)
    (first second : List (String × Setting)) :
    given? (name :: path) (.table (first ++ second)) =
      (given? (name :: path) (.table second)).or (given? (name :: path) (.table first)) := by
  simp only [given?, entries_table, List.reverse_append, List.findSome?_append]

theorem given?_entry_cons (name other : String) (path : List String) (value : Setting)
    (rest : List (String × Setting)) :
    given? (name :: path) (.table ((other, value) :: rest)) =
      (given? (name :: path) (.table rest)).or
        (if other = name then given? path value else none) := by
  refine (given?_append name path [(other, value)] rest).trans ?_
  simp [given?, List.findSome?_singleton]

theorem leads_table (name : String) (path : List String) (es : List (String × Setting)) :
    leads (name :: path) (.table es) = true ↔
      ∀ entry ∈ es, entry.1 = name → leads path entry.2 = true := by
  simp [leads, isTable, ← imp_iff_not_or]

/-- A table laid over another, one entry after the other. -/
theorem find?_overlaidEntries {name : String} {path : List String}
    (ih : ∀ base value, leads path value = true →
      find? path (overlaid base value) = (given? path value).or (find? path base))
    {incoming : List (String × Setting)} (hleads : leads (name :: path) (.table incoming) = true)
    (base : List (String × Setting)) :
    find? (name :: path) (.table (overlaidEntries base incoming)) =
      (given? (name :: path) (.table incoming)).or (find? (name :: path) (.table base)) := by
  induction incoming generalizing base with
  | nil => rfl
  | cons entry rest ihrest =>
    obtain ⟨other, value⟩ := entry
    rw [leads_table, List.forall_mem_cons, ← leads_table] at hleads
    rw [overlaidEntries, ihrest hleads.2, given?_entry_cons, Option.or_assoc]
    by_cases hname : other = name
    · subst hname
      rw [if_pos rfl, find?_put_self (ih _ _ (hleads.1 rfl))]
    · rw [if_neg hname, Option.none_or, find?_cons, entries_table,
        lookup_put_of_ne (Ne.symm hname)]
      rfl

/-- A tree laid over another gives what it has at a path, and leaves there what it has not. -/
theorem find?_overlaid {path : List String} (base : Setting) {value : Setting}
    (h : leads path value = true) :
    find? path (overlaid base value) = (given? path value).or (find? path base) := by
  induction path generalizing base value with
  | nil =>
    cases value with
    | table es => exact absurd h (by simp [leads, isTable])
    | _ => rfl
  | cons name path ih =>
    cases value with
    | table es =>
      cases es with
      | nil => cases base <;> rfl
      | cons entry more =>
        rw [overlaid, find?_overlaidEntries (fun base value ↦ ih base) h]
        rfl
    | _ => exact absurd h (by simp [leads, isTable])

/-! ### Sources -/

/-- To lay a value over the base at a path is to lay a table over it that has nothing but the value,
at that path. -/
theorem overlaidAt_eq_overlaid (base value : Setting) (path : List String) :
    overlaidAt base path value = overlaid base (nested value path) := by
  induction path generalizing base with
  | nil => rfl
  | cons name path ih => rw [overlaidAt, ih, nested, overlaid, overlaidEntries, overlaidEntries]

/-- A key spells at least one name. -/
theorem exists_pathOf_eq_cons (key : String) : ∃ name path, pathOf key = name :: path := by
  refine List.exists_cons_of_ne_nil ?_
  rw [pathOf]
  split_ifs
  · simp [List.splitOnP_ne_nil]
  · exact List.cons_ne_nil key []

theorem entries_nested (value : Setting) (key : String) :
    nested value (pathOf key) = .table (nested value (pathOf key)).entries := by
  obtain ⟨name, path, h⟩ := exists_pathOf_eq_cons key
  rw [h]
  rfl

theorem given?_spelledOut_cons (name : String) (path : List String) (key : String) (value : Setting)
    (rest : List (String × Setting)) :
    given? (name :: path) (spelledOut ((key, value) :: rest)) =
      (given? (name :: path) (spelledOut rest)).or
        (given? (name :: path) (nested value (pathOf key))) := by
  rw [spelledOut, List.flatMap_cons, given?_append, ← entries_nested]
  rfl

theorem leads_spelledOut_cons (name : String) (path : List String) (key : String) (value : Setting)
    (rest : List (String × Setting)) :
    leads (name :: path) (spelledOut ((key, value) :: rest)) = true ↔
      leads (name :: path) (nested value (pathOf key)) = true ∧
        leads (name :: path) (spelledOut rest) = true := by
  rw [spelledOut, List.flatMap_cons, leads_table, List.forall_mem_append, ← leads_table,
    ← leads_table, ← entries_nested]
  rfl

/-- A source laid over a tree gives what it has at a path, and leaves there what it has not. -/
theorem find?_overSource {path : List String} (base : Setting) {source : List (String × Setting)}
    (h : leads path (spelledOut source) = true) :
    find? path (base.overSource source) =
      (given? path (spelledOut source)).or (find? path base) := by
  cases path with
  | nil => exact absurd h (by simp [leads, isTable, spelledOut])
  | cons name path =>
    induction source generalizing base with
    | nil => rfl
    | cons entry rest ih =>
      obtain ⟨key, value⟩ := entry
      rw [leads_spelledOut_cons] at h
      rw [given?_spelledOut_cons, Option.or_assoc, ← find?_overlaid base h.1,
        ← overlaidAt_eq_overlaid]
      exact ih _ h.2

/-- A value that is no table is given at the place where it is and nowhere else. -/
theorem given?_nested {value : Setting} (hvalue : value.isTable = false) {path place : List String}
    (h : leads path (nested value place) = true) :
    given? path (nested value place) = if place = path then some value else none := by
  induction place generalizing path with
  | nil =>
    cases path with
    | nil => rfl
    | cons name path => exact absurd h (by simp [nested, leads, hvalue])
  | cons first place ih =>
    cases path with
    | nil => exact absurd h (by simp [nested, leads, isTable])
    | cons name path =>
      rw [nested, leads_table, List.forall_mem_singleton] at h
      rw [nested, given?_entry_cons]
      by_cases hname : first = name
      · subst hname
        rw [if_pos rfl, ih (h rfl)]
        simp [given?]
      · simp [given?, hname]

end PluginRecovery.Setting
