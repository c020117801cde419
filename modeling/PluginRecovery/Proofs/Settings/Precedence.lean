import Mathlib
import PluginRecovery.Proofs.Settings.Keys
import PluginRecovery.Proofs.Settings.Spelling
import PluginRecovery.Proofs.Settings.Variables

/-!
Which of the sources a setting comes from. `Key.Highest` says what the highest layer that sets a
setting gives it: the command line, the environment, the file, the defaults. Of a variable that is
what its text spells (`Kind.Spells`), of a file what stands there (`Kind.Holds`). When all that a
file and the environment have for the settings is of the right kinds (`WellTyped`,
`WellTypedEnvironment`), `load_settings` says that each setting, whatever the others are, has the
value of its highest layer, and that the settings are checked together after that.

It is not the text of its variable that a text setting has: a text that spells a number is kept as
the number is written (`load_userAgent_numeral`).
-/

set_option autoImplicit false
set_option relaxedAutoImplicit false

namespace PluginRecovery.Settings

open PluginRecovery.Text
open Setting (find? given? leads spelledOut)

namespace Key

variable {α : Type}

/-- What the command line sets. -/
def override? : Key α → Overrides → Option α
  | strategy, overrides => overrides.strategy
  | level, overrides => overrides.level
  | _, _ => none

/-- The text of the last variable for the setting. -/
def variableText? (key : Key α) (env : Environment) : Option String :=
  env.reverse.findSome? fun entry ↦
    if lower entry.1.toList ∈ variablesFor key.table key.name then some entry.2 else none

/-- What is set when nobody sets it. -/
def default? : Key α → Option α
  | timeoutSecs => some 30
  | connectTimeoutSecs => some 10
  | userAgent => some "jsconv/0.1.0"
  | acceptInvalidCerts => some false
  | strategy => some .auto
  | level => some "info"
  | format => some "text"
  | output => some "stderr"
  | logFile => none

/-- `key.Highest overrides env fromFile x`: the highest layer that sets the setting gives it the
value `x`, which may be missing. A file has `null` to say so. -/
inductive Highest (key : Key α) (overrides : Overrides) (env : Environment)
    (fromFile : List (String × Setting)) : Option α → Prop
  | commandLine {x : α} (hset : key.override? overrides = some x) :
      Highest key overrides env fromFile (some x)
  | environment {s : String} {x : α} (hline : key.override? overrides = none)
      (hset : key.variableText? env = some s) (hspells : key.kind.Spells s x) :
      Highest key overrides env fromFile (some x)
  | file {value : Setting} {x : α} (hline : key.override? overrides = none)
      (henv : key.variableText? env = none)
      (hset : given? key.path (spelledOut fromFile) = some value)
      (hholds : key.kind.Holds value x) : Highest key overrides env fromFile (some x)
  | null (hline : key.override? overrides = none) (henv : key.variableText? env = none)
      (hset : given? key.path (spelledOut fromFile) = some .null) :
      Highest key overrides env fromFile none
  | default (hline : key.override? overrides = none) (henv : key.variableText? env = none)
      (hfile : given? key.path (spelledOut fromFile) = none) :
      Highest key overrides env fromFile key.default?

/-- Every setting is called in keys and in variables as it is called in files. -/
theorem plainNames (key : Key α) : PlainNames key.table key.name := by
  cases key <;> exact ⟨by decide, by decide, by decide, rfl, rfl⟩

end Key

/-- What a file sets is in tables and of the right kinds. -/
structure WellTyped (fromFile : List (String × Setting)) : Prop where
  leads {α : Type} (key : Key α) : leads key.path (spelledOut fromFile) = true
  holds {α : Type} (key : Key α) (value : Setting) :
    given? key.path (spelledOut fromFile) = some value →
      (∃ x, key.kind.Holds value x) ∨ key.optional = true ∧ value = .null

/-- What the environment sets is in tables and of the right kinds. -/
structure WellTypedEnvironment (env : Environment) : Prop where
  leads {α : Type} (key : Key α) : leads key.path (spelledOut (ofEnvironment env)) = true
  spells {α : Type} (key : Key α) (s : String) :
    key.variableText? env = some s → ∃ x, key.kind.Spells s x

/-- What is read from a file before anything else, if there is one. It is a TOML document or a JSON
object, as its extension says. -/
inductive FileGives : Option (String × PathContents) → List (String × Setting) → Prop
  | noFile : FileGives none []
  | toml {path text : String} {fromFile : List (String × Setting)}
      (hextension : extension? path = some "toml") (hread : Toml.read? text.toList = some fromFile) :
      FileGives (some (path, .file text)) fromFile
  | json {path text : String} {fromFile : List (String × Setting)}
      (hextension : extension? path = some "json") (hread : readJson? text.toList = some fromFile) :
      FileGives (some (path, .file text)) fromFile

/-- The tree that the settings are read from. -/
def merged (fromFile : List (String × Setting)) (env : Environment) (overrides : Overrides) :
    Setting :=
  ((defaults.overSource fromFile).overSource (ofEnvironment env)).overSource overrides.source

/-- A file that gives entries, or no file, leads to the settings read off the layers. -/
theorem load_eq {file : Option (String × PathContents)} {fromFile : List (String × Setting)}
    (h : FileGives file fromFile) (env : Environment) (overrides : Overrides) :
    load file env overrides = ofTree (merged fromFile env overrides) := by
  cases h with
  | noFile => rfl
  | toml hextension hread =>
    rw [load, ofFile, hextension, hread]
    rfl
  | json hextension hread =>
    rw [load, ofFile, hextension, hread]
    rfl

/-! ### The layers -/

/-- A strategy is read back from its name. -/
theorem strategyOf?_name (s : Strategy) : strategyOf? (.text s.name) = some s := by
  cases s <;> rfl

theorem spelledOut_overrides (overrides : Overrides) :
    spelledOut overrides.source = .table
      ((overrides.level.map fun level ↦ ("logging", .table [("level", .text level)])).toList ++
        (overrides.strategy.map fun s ↦
          ("analyzer", .table [("strategy", .text s.name)])).toList) := by
  obtain ⟨level, strategy⟩ := overrides
  cases level <;> cases strategy <;> rfl

/-- The overrides have no table where a setting stands, and nothing but tables on the way to it. -/
theorem leads_overrides {α : Type} (key : Key α) (overrides : Overrides) :
    leads key.path (spelledOut overrides.source) = true := by
  rw [spelledOut_overrides]
  obtain ⟨level, strategy⟩ := overrides
  cases level <;> cases strategy <;> cases key <;> rfl

/-- Overrides that leave a setting out give it no value. -/
theorem given?_overrides_of_none {α : Type} {key : Key α} {overrides : Overrides}
    (h : key.override? overrides = none) : given? key.path (spelledOut overrides.source) = none := by
  rw [spelledOut_overrides]
  obtain ⟨level, strategy⟩ := overrides
  cases key with
  | level =>
    obtain rfl : level = none := h
    cases strategy <;> rfl
  | strategy =>
    obtain rfl : strategy = none := h
    cases level <;> rfl
  | _ => cases level <;> cases strategy <;> rfl

/-- What the command line sets is read as it was set. -/
theorem exists_given?_overrides {α : Type} {key : Key α} {overrides : Overrides} {x : α}
    (h : key.override? overrides = some x) :
    ∃ value, given? key.path (spelledOut overrides.source) = some value ∧
      key.kind.read? value = some x := by
  rw [spelledOut_overrides]
  obtain ⟨level, strategy⟩ := overrides
  cases key with
  | level =>
    obtain rfl : level = some x := h
    exact ⟨.text x, by cases strategy <;> rfl, rfl⟩
  | strategy =>
    obtain rfl : strategy = some x := h
    exact ⟨.text x.name, by cases level <;> rfl, strategyOf?_name x⟩
  | _ => exact absurd h (by simp [Key.override?])

/-- What the environment gives for a setting is what its last variable is taken for. -/
theorem given?_environment {env : Environment} (henv : WellTypedEnvironment env) {α : Type}
    (key : Key α) :
    given? key.path (spelledOut (ofEnvironment env)) = (key.variableText? env).map variableValue := by
  refine (given?_ofEnvironment key.plainNames (henv.leads key)).trans ?_
  rw [Key.variableText?, List.map_findSome?]
  congr 1
  funext entry
  dsimp only [Function.comp_apply]
  split_ifs <;> rfl

theorem find?_defaults {α : Type} (key : Key α) :
    find? key.path defaults = given? key.path defaults := by
  cases key <;> rfl

/-- The defaults have every setting that is not optional. -/
theorem isSome_given?_defaults {α : Type} {key : Key α} (h : key.optional = false) :
    (given? key.path defaults).isSome = true := by
  cases key with
  | logFile => exact absurd h (by decide)
  | _ => rfl

/-! ### All layers together -/

section Merged

variable {fromFile : List (String × Setting)} {env : Environment} {overrides : Overrides}
  {α : Type} {key : Key α}

/-- The tree has at the path of each setting what the highest layer gives. -/
theorem find?_merged (hfile : WellTyped fromFile) (henv : WellTypedEnvironment env)
    (overrides : Overrides) (key : Key α) :
    find? key.path (merged fromFile env overrides) =
      (given? key.path (spelledOut overrides.source)).or
        (((key.variableText? env).map variableValue).or
          ((given? key.path (spelledOut fromFile)).or (given? key.path defaults))) := by
  rw [merged, Setting.find?_overSource _ (leads_overrides key overrides),
    Setting.find?_overSource _ (henv.leads key), Setting.find?_overSource _ (hfile.leads key),
    find?_defaults, given?_environment henv]

/-- The layers together have every setting that is not optional. -/
theorem isSome_find?_merged (hfile : WellTyped fromFile) (henv : WellTypedEnvironment env)
    (overrides : Overrides) (hneeded : key.optional = false) :
    (find? key.path (merged fromFile env overrides)).isSome = true := by
  simp only [find?_merged hfile henv, Option.isSome_or, isSome_given?_defaults hneeded,
    Bool.or_true]

/-- What is found for a setting is accepted and read as the value. -/
structure Key.Read (key : Key α) (found : Option Setting) (x : Option α) : Prop where
  value : found.bind key.kind.read? = x
  accepts : ∀ value, found = some value → key.accepts value = true

theorem Kind.read?_null (kind : Kind α) : kind.read? .null = none := by
  cases kind <;> rfl

theorem Key.read_some {value : Setting} {x : α} (h : key.kind.read? value = some x) :
    key.Read (some value) (some x) := by
  refine ⟨h, ?_⟩
  rintro _ ⟨⟩
  cases value with
  | null => exact absurd (key.kind.read?_null.symm.trans h) (by simp)
  | _ => exact Option.isSome_of_eq_some h

/-- What the highest layer gives is found in the tree. -/
theorem Key.Highest.read (hfile : WellTyped fromFile) (henv : WellTypedEnvironment env)
    {x : Option α} (h : key.Highest overrides env fromFile x) :
    key.Read (find? key.path (merged fromFile env overrides)) x := by
  rw [find?_merged hfile henv]
  cases h with
  | commandLine hset =>
    obtain ⟨value, hgiven, hread⟩ := exists_given?_overrides hset
    rw [hgiven, Option.some_or]
    exact Key.read_some hread
  | environment hline hset hspells =>
    rw [given?_overrides_of_none hline, hset, Option.none_or, Option.map_some, Option.some_or]
    exact Key.read_some (Kind.read?_variableValue hspells)
  | file hline henv hset hholds =>
    rw [given?_overrides_of_none hline, henv, hset, Option.none_or, Option.map_none, Option.none_or,
      Option.some_or]
    exact Key.read_some (Kind.read?_of_holds hholds)
  | null hline henv hset =>
    rw [given?_overrides_of_none hline, henv, hset, Option.none_or, Option.map_none, Option.none_or,
      Option.some_or]
    refine ⟨key.kind.read?_null, ?_⟩
    rintro _ ⟨⟩
    rcases hfile.holds key .null hset with ⟨x, hx⟩ | ⟨hoptional, -⟩
    · exact absurd (key.kind.read?_null.symm.trans (Kind.read?_of_holds hx)) (by simp)
    · exact hoptional
  | default hline henv hfile =>
    rw [given?_overrides_of_none hline, henv, hfile, Option.none_or, Option.map_none,
      Option.none_or, Option.none_or]
    cases key with
    | logFile => exact ⟨rfl, by rintro _ ⟨⟩⟩
    | _ => exact Key.read_some rfl

/-- Some layer sets each setting, be it the last. -/
theorem Key.exists_highest (hfile : WellTyped fromFile) (henv : WellTypedEnvironment env)
    (overrides : Overrides) (key : Key α) : ∃ x, key.Highest overrides env fromFile x := by
  cases hline : key.override? overrides with
  | some x => exact ⟨some x, .commandLine hline⟩
  | none =>
    cases hvariable : key.variableText? env with
    | some s =>
      obtain ⟨x, hspells⟩ := henv.spells key s hvariable
      exact ⟨some x, .environment hline hvariable hspells⟩
    | none =>
      cases hset : given? key.path (spelledOut fromFile) with
      | some value =>
        rcases hfile.holds key value hset with ⟨x, hholds⟩ | ⟨-, rfl⟩
        · exact ⟨some x, .file hline hvariable hset hholds⟩
        · exact ⟨none, .null hline hvariable hset⟩
      | none => exact ⟨key.default?, .default hline hvariable hset⟩

end Merged

/-- The settings have, one by one, the values of the highest layers that set them, and are checked
together. No file where one was to be is an error, whatever else is set. -/
theorem load_settings :
    (∀ file fromFile env overrides, FileGives file fromFile → WellTyped fromFile →
      WellTypedEnvironment env →
        ∃ c, (∀ {α : Type} (key : Key α) (x : Option α),
            key.of? c = x ↔ key.Highest overrides env fromFile x) ∧
          load file env overrides = c.validate.map fun _ ↦ c) ∧
      ∀ path env overrides,
        load (some (path, .nothing)) env overrides = .error (.fileNotFound path) := by
  constructor
  · intro file fromFile env overrides hsource hfile henv
    have haccepts : ∀ {α : Type} (key : Key α) (value : Setting),
        find? key.path (merged fromFile env overrides) = some value →
          key.accepts value = true := by
      intro α key value hvalue
      obtain ⟨x, hx⟩ := key.exists_highest hfile henv overrides
      exact (hx.read hfile henv).accepts value hvalue
    obtain ⟨c, hc, hkeys⟩ := exists_ofTree?_eq
      (fun key hneeded ↦ isSome_find?_merged hfile henv overrides hneeded) haccepts
    refine ⟨c, fun key x ↦ ⟨?_, ?_⟩, ?_⟩
    · rintro rfl
      obtain ⟨y, hy⟩ := key.exists_highest hfile henv overrides
      rwa [(hkeys key).trans (hy.read hfile henv).value]
    · intro hx
      exact (hkeys key).trans (hx.read hfile henv).value
    · rw [load_eq hsource, ofTree, hc]
      change (do c.validate; return c) = _
      cases c.validate <;> rfl
  · intro path env overrides
    rfl

/-- All four layers set the level. The user agent is the file's; variables name the log file and
spell a time and a switch. -/
theorem load_settings_four_layers :
    let env : Environment :=
      [("JSCONV__LOGGING__LEVEL", "error"), ("jsconv__Logging__Log_File", "a.log"),
        ("JSCONV__HTTP__TIMEOUT_SECS", "+07"), ("JSCONV__HTTP__ACCEPT_INVALID_CERTS", "Yes")]
    let text := "[http]\nuser_agent='a'\n[logging]\nlevel='warn'\noutput='file'\n"
    load (some ("c.toml", .file text)) env ⟨some "debug", none⟩ =
        .ok ⟨⟨7, 10, "a", true⟩, .auto, ⟨"debug", "text", "file", some "a.log"⟩⟩ ∧
      load (some ("c.toml", .nothing)) env ⟨some "debug", none⟩ =
        .error (.fileNotFound "c.toml") := by
  intro env text
  have hsource : FileGives (some ("c.toml", .file text))
      [("http", .table [("user_agent", .text "a")]),
        ("logging", .table [("level", .text "warn"), ("output", .text "file")])] :=
    .toml (by cbv) (by cbv)
  have hfile : WellTyped [("http", .table [("user_agent", .text "a")]),
      ("logging", .table [("level", .text "warn"), ("output", .text "file")])] := by
    refine ⟨fun key ↦ by cases key <;> rfl, fun key value h ↦ .inl ?_⟩
    cases key with
    | userAgent => exact ⟨"a", (Option.some.inj h).symm⟩
    | level => exact ⟨"warn", (Option.some.inj h).symm⟩
    | output => exact ⟨"file", (Option.some.inj h).symm⟩
    | _ => exact absurd h (Option.some_ne_none value).symm
  have htime : Kind.count.Spells "+07" 7 := ⟨7, by decide, Decimal.integer?_eq_some_iff.mp rfl, rfl⟩
  have hcerts : Kind.switch.Spells "Yes" true := .inr (by decide)
  have hlog : KeptAs "a.log" "a.log" := keptAs_self (by decide) (by decide)
  have henv : WellTypedEnvironment env := by
    refine ⟨fun key ↦ by cases key <;> rfl, fun key s h ↦ ?_⟩
    cases key with
    | timeoutSecs => exact ⟨7, Option.some.inj h ▸ htime⟩
    | acceptInvalidCerts => exact ⟨true, Option.some.inj h ▸ hcerts⟩
    | connectTimeoutSecs => exact absurd h (Option.some_ne_none s).symm
    | strategy => exact absurd h (Option.some_ne_none s).symm
    | _ => exact exists_keptAs s
  obtain ⟨c, hc, hload⟩ := load_settings.1 _ _ env ⟨some "debug", none⟩ hsource hfile henv
  obtain rfl : c = ⟨⟨7, 10, "a", true⟩, .auto, ⟨"debug", "text", "file", some "a.log"⟩⟩ := by
    refine eq_of_forall_key fun key ↦ (hc key _).mpr ?_
    cases key with
    | timeoutSecs => exact .environment rfl rfl htime
    | connectTimeoutSecs => exact .default rfl rfl rfl
    | userAgent => exact .file rfl rfl rfl rfl
    | acceptInvalidCerts => exact .environment rfl rfl hcerts
    | strategy => exact .default rfl rfl rfl
    | level => exact .commandLine rfl
    | format => exact .default rfl rfl rfl
    | output => exact .file rfl rfl rfl rfl
    | logFile => exact .environment rfl rfl hlog
  exact ⟨hload, load_settings.2 "c.toml" env ⟨some "debug", none⟩⟩

/-- A variable names the user agent, and it is not the user agent. -/
theorem load_userAgent_numeral :
    let env : Environment := [("JSCONV__HTTP__USER_AGENT", "007")]
    WellTypedEnvironment env ∧ Key.userAgent.variableText? env = some "007" ∧
      load none env {} =
        .ok ⟨⟨30, 10, "7", false⟩, .auto, ⟨"info", "text", "stderr", none⟩⟩ := by
  intro env
  have hvariable : variableValue "007" = .int 7 :=
    variableValue_of_integer (Decimal.int64?_eq_some_iff.mp (by decide))
  have hsource : ofEnvironment env = [("http.user_agent", .int 7)] :=
    congrArg (fun value ↦ [("http.user_agent", value)]) hvariable
  have htyped : WellTypedEnvironment env := by
    refine ⟨fun key ↦ ?_, fun key s h ↦ ?_⟩
    · rw [hsource]
      cases key <;> rfl
    · cases key with
      | userAgent => exact exists_keptAs s
      | _ => exact absurd h (Option.some_ne_none s).symm
  refine ⟨htyped, rfl, ?_⟩
  rw [load_eq .noFile, merged, hsource]
  cbv

end PluginRecovery.Settings
