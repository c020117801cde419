import PluginRecovery.Analysis.Strategy
import PluginRecovery.Settings.Tree
import PluginRecovery.Text.Blank

/-!
The settings of the program and the rules that they keep.
-/

set_option autoImplicit false
set_option relaxedAutoImplicit false

namespace PluginRecovery

open PluginRecovery.Text

inductive SettingsError where
  | invalidHttp (reason : String)
  | invalidLogging (reason : String)
  | unreadable (reason : String)
  | fileNotFound (path : String)
  deriving DecidableEq, Repr

def SettingsError.message : SettingsError → String
  | .invalidHttp reason => "Invalid http configuration: " ++ reason
  | .invalidLogging reason => "Invalid logging configuration: " ++ reason
  | .unreadable reason => "Failed to load configuration: " ++ reason
  | .fileNotFound path => "Configuration file not found: " ++ path

/-- How pages are fetched. -/
structure HttpSettings where
  timeoutSecs : Nat
  connectTimeoutSecs : Nat
  userAgent : String
  acceptInvalidCerts : Bool
  deriving DecidableEq, Repr

/-- What is logged, and where to. -/
structure LoggingSettings where
  level : String
  format : String
  output : String
  logFile : Option String
  deriving DecidableEq, Repr

structure Settings where
  http : HttpSettings
  strategy : Strategy
  logging : LoggingSettings
  deriving DecidableEq, Repr

/-- Neither time is zero and there is a user agent. -/
def HttpSettings.validate (s : HttpSettings) : Except SettingsError Unit :=
  if s.timeoutSecs = 0 then .error (.invalidHttp "timeout_secs must be greater than 0")
  else if s.connectTimeoutSecs = 0 then
    .error (.invalidHttp "connect_timeout_secs must be greater than 0")
  else if blank s.userAgent.toList then .error (.invalidHttp "user_agent cannot be empty")
  else .ok ()

namespace LoggingSettings

def levels : List String :=
  ["trace", "debug", "info", "warn", "error"]

def formats : List String :=
  ["json", "text"]

/-- The outputs. Results are written elsewhere. -/
def outputs : List String :=
  ["stderr", "file"]

/-- The names in quotes, in brackets. -/
def listed (names : List String) : String :=
  "[" ++ ", ".intercalate (names.map fun name => "\"" ++ name ++ "\"") ++ "]"

/-- Level, format and output are known, and there is a file to log to if one is asked for. -/
def validate (s : LoggingSettings) : Except SettingsError Unit :=
  if !levels.contains s.level then
    .error (.invalidLogging ("level must be one of: " ++ listed levels))
  else if !formats.contains s.format then
    .error (.invalidLogging ("format must be one of: " ++ listed formats))
  else if !outputs.contains s.output then
    .error (.invalidLogging ("output must be one of: " ++ listed outputs))
  else if s.output == "file" && s.logFile.isNone then
    .error (.invalidLogging "log_file must be specified when output is 'file'")
  else .ok ()

end LoggingSettings

namespace Settings

/-- All rules are kept. -/
def validate (s : Settings) : Except SettingsError Unit := do
  s.http.validate
  s.logging.validate

/-- What is set when nobody sets it. -/
def defaults : Setting :=
  .table [
    ("http", .table [
      ("timeout_secs", .int 30),
      ("connect_timeout_secs", .int 10),
      ("user_agent", .text "jsconv/0.1.0"),
      ("accept_invalid_certs", .bool false)]),
    ("analyzer", .table [("strategy", .text "auto")]),
    ("logging", .table [
      ("level", .text "info"),
      ("format", .text "text"),
      ("output", .text "stderr")])]

/-! ### From untyped settings -/

/-- The fields of a record: by name in a table, by place in a list. -/
def recordFields (names : List String) : Setting → Option (Bool × List (String × Setting))
  | .table entries => some (false, entries)
  | .list items => some (true, names.zip items)
  | _ => none

/-- A field that must be there. -/
def field? {α : Type} (fields : List (String × Setting)) (name : String)
    (read : Setting → Option α) : Option α :=
  (fields.lookup name).bind read

def httpOf? (s : Setting) : Option HttpSettings := do
  let (_, fields) ←
    recordFields ["timeout_secs", "connect_timeout_secs", "user_agent", "accept_invalid_certs"] s
  return {
    timeoutSecs := ← field? fields "timeout_secs" Setting.asNatural?
    connectTimeoutSecs := ← field? fields "connect_timeout_secs" Setting.asNatural?
    userAgent := ← field? fields "user_agent" Setting.asText?
    acceptInvalidCerts := ← field? fields "accept_invalid_certs" Setting.asBool? }

/-- A strategy by its name in any case. -/
def strategyOf? (s : Setting) : Option Strategy :=
  s.asCase?.bind fun name => Strategy.ofName? (Setting.lowered name)

def analyzerOf? (s : Setting) : Option Strategy := do
  let (_, fields) ← recordFields ["strategy"] s
  field? fields "strategy" strategyOf?

/-- The file to log to may be missing, but not in a list. -/
def logFileOf? (positional : Bool) (fields : List (String × Setting)) : Option (Option String) :=
  match fields.lookup "log_file" with
  | none => if positional then none else some none
  | some .null => some none
  | some value => value.asText?.map some

def loggingOf? (s : Setting) : Option LoggingSettings := do
  let (positional, fields) ← recordFields ["level", "format", "output", "log_file"] s
  return {
    level := ← field? fields "level" Setting.asText?
    format := ← field? fields "format" Setting.asText?
    output := ← field? fields "output" Setting.asText?
    logFile := ← logFileOf? positional fields }

/-- The settings that a tree holds, if each is there and of its kind. -/
def ofTree? (tree : Setting) : Option Settings := do
  let (_, fields) ← recordFields ["http", "analyzer", "logging"] tree
  return {
    http := ← field? fields "http" httpOf?
    strategy := ← field? fields "analyzer" analyzerOf?
    logging := ← field? fields "logging" loggingOf? }

/-- The settings that a tree holds, if they keep the rules. -/
def ofTree (tree : Setting) : Except SettingsError Settings :=
  match ofTree? tree with
  | none => .error (.unreadable "a setting is missing or has a value of the wrong kind")
  | some settings => do
    settings.validate
    return settings

end Settings

end PluginRecovery
