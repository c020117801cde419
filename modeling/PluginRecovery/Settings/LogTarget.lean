import PluginRecovery.Settings.Basic

/-!
Where the log goes. A log file is made in its folder, which is made too when it is not there.
-/

set_option autoImplicit false
set_option relaxedAutoImplicit false

namespace PluginRecovery

inductive LogTarget where
  | stderr
  | file (folder name : String)
  deriving DecidableEq, Repr

inductive LogError where
  | level (name : String)
  | output (name : String)
  | format (name : String)
  | noFile
  | noFolder
  | noFileName
  deriving DecidableEq, Repr

def LogError.message : LogError → String
  | .level name => "Invalid log level: " ++ name
  | .output name => "Invalid output configuration: " ++ name
  | .format name => "Invalid format configuration: " ++ name
  | .noFile => "log_file must be specified when output is 'file'"
  | .noFolder => "Failed to create log directory"
  | .noFileName => "Log file must have a filename"

/-- The parts of a path between slashes. Empty parts do not count, and of the parts that are one
point only a first one does. -/
def pathParts (path : String) : List String :=
  let parts := ((path.toList.splitOnP (· == '/')).map fun part => String.ofList part).filter
    fun part => part != ""
  match parts with
  | [] => []
  | first :: rest =>
    if path.toList.head? == some '/' && first == "." then rest.filter (· != ".")
    else first :: rest.filter (· != ".")

def fileName? (path : String) : Option String :=
  match (pathParts path).getLast? with
  | none => none
  | some name => if name == ".." || name == "." then none else some name

/-- The folder of a path; a point for the current one. -/
def folderOf (path : String) : String :=
  let folder := "/".intercalate (pathParts path).dropLast
  if path.toList.head? == some '/' then "/" ++ folder
  else if folder == "" then "." else folder

namespace LoggingSettings

/-- The level by its name in any case is one of the known ones. -/
def knowsLevel (s : LoggingSettings) : Bool :=
  levels.contains (Setting.lowered s.level)

/-- The folder that must be there before anything else about a log file is looked at. -/
def logFolder? (s : LoggingSettings) : Option String :=
  if s.knowsLevel && s.output == "file" then s.logFile.map folderOf else none

/-- Where the log goes; the format is looked at last. -/
def target (s : LoggingSettings) : Except LogError LogTarget :=
  if !s.knowsLevel then .error (.level s.level)
  else if s.output == "stderr" then .ok .stderr
  else if s.output == "file" then
    match s.logFile with
    | none => .error .noFile
    | some path =>
      match fileName? path with
      | none => .error .noFileName
      | some name => .ok (.file (folderOf path) name)
  else .error (.output s.output)

def checkFormat (s : LoggingSettings) : Except LogError Unit :=
  if formats.contains s.format then .ok () else .error (.format s.format)

end LoggingSettings

end PluginRecovery
