import PluginRecovery.CommandLine.Invocation
import PluginRecovery.Recipe.Encoding
import PluginRecovery.Settings.LogTarget
import PluginRecovery.Source.Basic

/-!
The program: what a command line makes it do, and how it ends. All that it needs from outside comes
through a platform, so that it can be run on real files and on imagined ones alike.
-/

set_option autoImplicit false
set_option relaxedAutoImplicit false

namespace PluginRecovery

/-- What the program needs from outside. -/
structure Platform (m : Type → Type) where
  environment : m Environment
  /-- What is at a path. -/
  look : String → m PathContents
  /-- Make a folder, with those above it, unless it is there; whether it is there now. -/
  makeFolder : String → m Bool
  /-- Make a log file in a folder, unless it is there; whether it can be written to. -/
  openLog : (folder name : String) → m Bool
  /-- How pages are fetched. -/
  client : HttpSettings → Fetch m

/-- How the program ends. -/
structure Outcome where
  status : Nat
  output : String
  complaint : String
  deriving DecidableEq, Repr

/-- Why a command line that can be read is not carried out. -/
inductive Refusal where
  | settings (error : SettingsError)
  | log (error : LogError)
  /-- The log file cannot be written to. -/
  | logFile (name : String)
  /-- There is no text at the path of the plugin. -/
  | noScript (path : String)
  /-- Servers would not be told this user agent. -/
  | userAgent (text : String)
  /-- The analysis of the plugin does not come to an end, and uses up all memory that it may. -/
  | endless (path : String)
  | source (failure : Failure)
  deriving DecidableEq, Repr

namespace Refusal

def message : Refusal → String
  | settings error => error.message
  | log error => error.message
  | logFile name => "Failed to open log file " ++ name
  | noScript path => "Failed to read plugin source " ++ path
  | userAgent text => "Failed to build HTTP client: no user agent: " ++ text
  | endless path => "Failed to analyze plugin source " ++ path
  | source failure => failure.message

def status : Refusal → Nat
  | logFile _ => 101
  | endless _ => 134
  | _ => 1

end Refusal

namespace CommandLine.UsageError

/-- What is said of a command line that cannot be carried out. -/
def complaint : UsageError → String
  | displayHelp | displayVersion => ""
  | displayHelpOnMissing | missingSubcommand => "a command is missing"
  | missingRequired => "an argument is missing"
  | unknownArgument => "an argument is not known"
  | invalidSubcommand => "there is no such command"
  | invalidValue => "a value is missing or not allowed"
  | valueValidation => "a value cannot be read"
  | tooManyValues => "a switch that takes no value has one"
  | argumentConflict => "a switch is repeated"

end CommandLine.UsageError

namespace Program

open PluginRecovery.CommandLine

/-- The name and the version of the program. -/
def version : String :=
  "jsconv 0.1.0\n"

/-- How the program is called. -/
def help : String :=
  "Usage: jsconv [OPTIONS] <COMMAND>\n\n" ++
  "Commands:\n" ++
  "  analyze <FILE> [--pretty]              Print the recipe of a plugin\n" ++
  "  search <FILE> [QUERY] [-p, --page <N>] List works\n" ++
  "  details <FILE> <URL>                   Print the details of a work\n" ++
  "  chapters <FILE> <URL>                  Print the chapters of a work\n" ++
  "  content <FILE> <URL>                   Print the text of a chapter\n\n" ++
  "Options:\n" ++
  "  -c, --config <FILE>      Read settings from a file\n" ++
  "  -l, --log-level <LEVEL>  trace, debug, info, warn or error\n" ++
  "  -s, --strategy <NAME>    regex, structural or auto\n" ++
  "  -h, --help               Print help\n" ++
  "  -V, --version            Print version\n"

/-- How the program ends when there is nothing to carry out. -/
def ofUsage : UsageError → Outcome
  | .displayHelp => ⟨0, help, ""⟩
  | .displayVersion => ⟨0, version, ""⟩
  | error => ⟨2, "", error.complaint ++ "\n\n" ++ help⟩

/-- How the program ends when it is carried out, or is not. -/
def ofResult : Except Refusal String → Outcome
  | .ok text => ⟨0, text ++ "\n", ""⟩
  | .error refusal => ⟨refusal.status, "", refusal.message ++ "\n"⟩

/-- Whether servers can be told a user agent: it has no control characters but tabs. -/
def isUserAgent (text : String) : Bool :=
  text.toList.all fun c => c == '\t' || (' ' ≤ c && c.toNat != 127)

section Running

variable {m : Type → Type} [Monad m]

def settings (platform : Platform m) (invocation : Invocation) : ExceptT Refusal m Settings := do
  let file ← match invocation.config with
    | none => pure none
    | some path => do
      let contents ← platform.look path
      pure (some (path, contents))
  let environment ← platform.environment
  (Settings.load file environment invocation.overrides).mapError Refusal.settings

/-- Have the folder of the log file made, then the file, and look at the format last. -/
def openLog (platform : Platform m) (logging : LoggingSettings) : ExceptT Refusal m Unit := do
  if let some folder := logging.logFolder? then
    unless ← platform.makeFolder folder do
      throw (.log .noFolder)
  match ← (logging.target).mapError Refusal.log with
  | .stderr => pure ()
  | .file folder name =>
    unless ← platform.openLog folder name do
      throw (.logFile name)
  logging.checkFormat.mapError Refusal.log

def script (platform : Platform m) (path : String) : ExceptT Refusal m String := do
  match ← platform.look path with
  | .file text => return text
  | _ => throw (.noScript path)

/-- The source that a script describes, once there is a client to fetch pages with. -/
def source (settings : Settings) (path script : String) : Except Refusal Source :=
  if isUserAgent settings.http.userAgent then
    match Source.ofScript? path settings.strategy script with
    | some result => result.mapError Refusal.source
    | none => .error (.endless path)
  else .error (.userAgent settings.http.userAgent)

/-- What a source answers to a command. -/
def answer (source : Source) (fetch : Fetch m) : Command → m Json
  | .analyze _ => return source.recipe.toJson
  | .search (some query) number => return (← source.search fetch [⟨query⟩] number).toJson
  | .search none number => return (← source.list fetch none number).toJson
  | .details url => return (← source.details fetch { key := url }).toJson
  | .chapters url => return Json.list Chapter.toJson (← source.chapters fetch { key := url })
  | .content url =>
    return Json.list Page.toJson
      (← source.pages fetch { key := url, name := "", number := .zero false })

/-- What a command prints. Only the recipe of a plugin is had without a client, and may be printed
without line breaks. -/
def perform (platform : Platform m) (settings : Settings) (invocation : Invocation)
    (script : String) : ExceptT Refusal m String := do
  match invocation.command with
  | .analyze pretty =>
    match settings.strategy.analyze? script.toList with
    | some traced =>
      let json := traced.value.toJson
      return if pretty then json.pretty else json.compact
    | none => throw (.endless invocation.file)
  | command =>
    let source ← source settings invocation.file script
    let json ← ExceptT.lift (answer source (platform.client settings.http) command)
    return json.pretty

def carryOut (platform : Platform m) (invocation : Invocation) : ExceptT Refusal m String := do
  let settings ← settings platform invocation
  openLog platform settings.logging
  perform platform settings invocation (← script platform invocation.file)

def run (platform : Platform m) (arguments : List String) : m Outcome :=
  match Invocation.parse arguments with
  | .error error => return ofUsage error
  | .ok invocation => return ofResult (← (carryOut platform invocation).run)

end Running

end Program

end PluginRecovery
