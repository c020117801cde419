import Mathlib
import PluginRecovery.Proofs.Settings.Overlay
import PluginRecovery.Settings.Basic

/-!
The nine settings one by one. A `Key` is one of them, with its place in the tree and the type of
its values; together they are all settings (`eq_of_forall_key`). A tree is read when it has a value
of the right type for each of them that may not be missing, and what is read is what the tree has at
the paths of the keys (`exists_ofTree?_eq`).
-/

set_option autoImplicit false
set_option relaxedAutoImplicit false

namespace PluginRecovery.Settings

open Setting (find?)

/-- What the values of a setting are. -/
inductive Kind : Type → Type
  | count : Kind Nat
  | switch : Kind Bool
  | choice : Kind Strategy
  | text : Kind String

/-- An untyped value as one of the kind. -/
def Kind.read? {α : Type} : Kind α → Setting → Option α
  | count, s => s.asNatural?
  | switch, s => s.asBool?
  | choice, s => strategyOf? s
  | text, s => s.asText?

/-- The settings, each with the type of its values. -/
inductive Key : Type → Type
  | timeoutSecs : Key Nat
  | connectTimeoutSecs : Key Nat
  | userAgent : Key String
  | acceptInvalidCerts : Key Bool
  | strategy : Key Strategy
  | level : Key String
  | format : Key String
  | output : Key String
  | logFile : Key String

namespace Key

variable {α : Type}

def table : Key α → String
  | timeoutSecs => "http"
  | connectTimeoutSecs => "http"
  | userAgent => "http"
  | acceptInvalidCerts => "http"
  | strategy => "analyzer"
  | level => "logging"
  | format => "logging"
  | output => "logging"
  | logFile => "logging"

def name : Key α → String
  | timeoutSecs => "timeout_secs"
  | connectTimeoutSecs => "connect_timeout_secs"
  | userAgent => "user_agent"
  | acceptInvalidCerts => "accept_invalid_certs"
  | strategy => "strategy"
  | level => "level"
  | format => "format"
  | output => "output"
  | logFile => "log_file"

def path (key : Key α) : List String :=
  [key.table, key.name]

/-- The value among all settings. There may be no log file. -/
def of? : Key α → Settings → Option α
  | timeoutSecs, c => some c.http.timeoutSecs
  | connectTimeoutSecs, c => some c.http.connectTimeoutSecs
  | userAgent, c => some c.http.userAgent
  | acceptInvalidCerts, c => some c.http.acceptInvalidCerts
  | strategy, c => some c.strategy
  | level, c => some c.logging.level
  | format, c => some c.logging.format
  | output, c => some c.logging.output
  | logFile, c => c.logging.logFile

def kind : Key α → Kind α
  | timeoutSecs => .count
  | connectTimeoutSecs => .count
  | userAgent => .text
  | acceptInvalidCerts => .switch
  | strategy => .choice
  | level => .text
  | format => .text
  | output => .text
  | logFile => .text

/-- A setting that may be missing. -/
def optional : Key α → Bool
  | logFile => true
  | _ => false

/-- An untyped value that is of the setting's type, or `null` for a setting that may be missing. -/
def accepts : Key α → Setting → Bool
  | key, .null => key.optional
  | key, value => (key.kind.read? value).isSome

end Key

/-- The settings are told apart by the values of the keys. -/
theorem eq_of_forall_key {c d : Settings} (h : ∀ {α : Type} (key : Key α), key.of? c = key.of? d) :
    c = d := by
  obtain ⟨⟨ct, cc, cu, ca⟩, cs, ⟨cl, cf, co, cg⟩⟩ := c
  obtain ⟨⟨dt, dc, du, da⟩, ds, ⟨dl, df, dp, dg⟩⟩ := d
  obtain rfl : ct = dt := Option.some.inj (h .timeoutSecs)
  obtain rfl : cc = dc := Option.some.inj (h .connectTimeoutSecs)
  obtain rfl : cu = du := Option.some.inj (h .userAgent)
  obtain rfl : ca = da := Option.some.inj (h .acceptInvalidCerts)
  obtain rfl : cs = ds := Option.some.inj (h .strategy)
  obtain rfl : cl = dl := Option.some.inj (h .level)
  obtain rfl : cf = df := Option.some.inj (h .format)
  obtain rfl : co = dp := Option.some.inj (h .output)
  obtain rfl : cg = dg := h .logFile
  rfl

/-! ### The settings in a tree -/

/-- What is at a path of two names is in a table in a table. -/
theorem exists_section {tree value : Setting} {outer inner : String}
    (h : find? [outer, inner] tree = some value) :
    ∃ entries, tree.entries.lookup outer = some (.table entries) := by
  obtain ⟨inside, houter, hinner⟩ := Option.bind_eq_some_iff.mp h
  obtain ⟨found, hfound, -⟩ := Option.bind_eq_some_iff.mp hinner
  cases inside with
  | table entries => exact ⟨entries, houter⟩
  | _ => exact absurd hfound (by simp [Setting.entries])

/-- A setting of a section is looked up among the entries of that section. -/
theorem find?_section {tree : Setting} {outer inner : String} {entries : List (String × Setting)}
    (h : tree.entries.lookup outer = some (.table entries)) :
    find? [outer, inner] tree = entries.lookup inner := by
  rw [Setting.find?_cons, h, Option.bind_some, Setting.find?_cons]
  exact Option.bind_fun_some (entries.lookup inner)

/-- A field is read from what stands at its path. -/
theorem field?_eq {α : Type} {tree : Setting} {outer inner : String}
    {entries : List (String × Setting)} (h : tree.entries.lookup outer = some (.table entries))
    (read : Setting → Option α) :
    field? entries inner read = (find? [outer, inner] tree).bind read := by
  rw [find?_section h]
  rfl

theorem recordFields_of_lookup {tree value : Setting} {name : String}
    (h : tree.entries.lookup name = some value) (names : List String) :
    recordFields names tree = some (false, tree.entries) := by
  cases tree with
  | table entries => rfl
  | _ => exact absurd h (by simp [Setting.entries])

theorem logFileOf?_eq {entries : List (String × Setting)}
    (h : ∀ value, entries.lookup "log_file" = some value → Key.logFile.accepts value = true) :
    logFileOf? false entries = some ((entries.lookup "log_file").bind Setting.asText?) := by
  unfold logFileOf?
  cases hvalue : entries.lookup "log_file" with
  | none => rfl
  | some value =>
    have haccepts := h value hvalue
    cases value with
    | null => rfl
    | list items => exact absurd haccepts (by simp [Key.accepts, Key.kind, Kind.read?, Setting.asText?])
    | table entries => exact absurd haccepts (by simp [Key.accepts, Key.kind, Kind.read?, Setting.asText?])
    | _ => rfl

/-- The section is made of its five fields, once each of them can be read. -/
theorem httpOf?_eq {entries : List (String × Setting)} {timeout connect : Nat} {agent : String}
    {certs : Bool} (htimeout : field? entries "timeout_secs" Setting.asNatural? = some timeout)
    (hconnect : field? entries "connect_timeout_secs" Setting.asNatural? = some connect)
    (hagent : field? entries "user_agent" Setting.asText? = some agent)
    (hcerts : field? entries "accept_invalid_certs" Setting.asBool? = some certs) :
    httpOf? (.table entries) = some ⟨timeout, connect, agent, certs⟩ := by
  simp [httpOf?, recordFields, htimeout, hconnect, hagent, hcerts]

theorem loggingOf?_eq {entries : List (String × Setting)} {level format output : String}
    {file : Option String} (hlevel : field? entries "level" Setting.asText? = some level)
    (hformat : field? entries "format" Setting.asText? = some format)
    (houtput : field? entries "output" Setting.asText? = some output)
    (hfile : logFileOf? false entries = some file) :
    loggingOf? (.table entries) = some ⟨level, format, output, file⟩ := by
  simp [loggingOf?, recordFields, hlevel, hformat, houtput, hfile]

/-- What is set and accepted can be read, except that an optional setting may be null. -/
theorem Key.exists_read? {α : Type} {key : Key α} {tree : Setting}
    (hset : (find? key.path tree).isSome = true)
    (haccepts : ∀ value, find? key.path tree = some value → key.accepts value = true)
    (hneeded : key.optional = false) :
    ∃ x, (find? key.path tree).bind key.kind.read? = some x := by
  obtain ⟨value, hvalue⟩ := Option.isSome_iff_exists.mp hset
  have h := haccepts value hvalue
  rw [hvalue, Option.bind_some]
  refine Option.isSome_iff_exists.mp ?_
  cases value with
  | null =>
    rw [accepts, hneeded] at h
    exact absurd h Bool.false_ne_true
  | _ => exact h

/-- A tree that has a value of its type for each setting that may not be missing is read. -/
theorem exists_ofTree?_eq {tree : Setting}
    (hset : ∀ {α : Type} (key : Key α), key.optional = false → (find? key.path tree).isSome = true)
    (haccepts : ∀ {α : Type} (key : Key α) (value : Setting),
      find? key.path tree = some value → key.accepts value = true) :
    ∃ c, ofTree? tree = some c ∧
      ∀ {α : Type} (key : Key α), key.of? c = (find? key.path tree).bind key.kind.read? := by
  have hread : ∀ {α : Type} (key : Key α), key.optional = false →
      ∃ x, (find? key.path tree).bind key.kind.read? = some x :=
    fun key hneeded ↦ key.exists_read? (hset key hneeded) (haccepts key) hneeded
  obtain ⟨timeout, htimeout⟩ := hread .timeoutSecs rfl
  obtain ⟨connect, hconnect⟩ := hread .connectTimeoutSecs rfl
  obtain ⟨agent, hagent⟩ := hread .userAgent rfl
  obtain ⟨certs, hcerts⟩ := hread .acceptInvalidCerts rfl
  obtain ⟨strategy, hstrategy⟩ := hread .strategy rfl
  obtain ⟨level, hlevel⟩ := hread .level rfl
  obtain ⟨format, hformat⟩ := hread .format rfl
  obtain ⟨output, houtput⟩ := hread .output rfl
  obtain ⟨http, hhttp : tree.entries.lookup "http" = some (.table http)⟩ :=
    exists_section (Option.get_mem (hset .timeoutSecs rfl))
  obtain ⟨analyzer, hanalyzer : tree.entries.lookup "analyzer" = some (.table analyzer)⟩ :=
    exists_section (Option.get_mem (hset .strategy rfl))
  obtain ⟨logging, hlogging : tree.entries.lookup "logging" = some (.table logging)⟩ :=
    exists_section (Option.get_mem (hset .level rfl))
  have hfile := logFileOf?_eq fun value hvalue ↦
    haccepts .logFile value ((find?_section hlogging).trans hvalue)
  rw [← find?_section hlogging] at hfile
  have hhttpOf := httpOf?_eq ((field?_eq hhttp _).trans htimeout)
    ((field?_eq hhttp _).trans hconnect) ((field?_eq hhttp _).trans hagent)
    ((field?_eq hhttp _).trans hcerts)
  have hanalyzerOf : analyzerOf? (.table analyzer) = some strategy :=
    (field?_eq hanalyzer _).trans hstrategy
  have hloggingOf := loggingOf?_eq ((field?_eq hlogging _).trans hlevel)
    ((field?_eq hlogging _).trans hformat) ((field?_eq hlogging _).trans houtput) hfile
  refine ⟨⟨⟨timeout, connect, agent, certs⟩, strategy, ⟨level, format, output,
    (find? Key.logFile.path tree).bind Key.logFile.kind.read?⟩⟩, ?_, fun key ↦ ?_⟩
  · rw [ofTree?, recordFields_of_lookup hhttp]
    simp only [field?, hhttp, hanalyzer, hlogging, Option.bind_some, Option.bind_eq_bind, hhttpOf,
      hanalyzerOf, hloggingOf]
    rfl
  · cases key with
    | logFile => rfl
    | _ => exact Eq.symm ‹_›

end PluginRecovery.Settings
