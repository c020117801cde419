import PluginRecovery.Program

/-!
The program on a real machine.
-/

set_option autoImplicit false
set_option relaxedAutoImplicit false

namespace PluginRecovery

/-- Read a variable of the environment from its name and value with an equals sign between. -/
def Environment.variable? (entry : String) : Option (String × String) :=
  match entry.toList.span (· != '=') with
  | (name, _ :: value) => some (String.ofList name, String.ofList value)
  | _ => none

namespace Machine

/-- The variables of the environment; none where the system does not list them. -/
def environment : IO Environment := do
  try
    let bytes ← IO.FS.readBinFile "/proc/self/environ"
    let text := String.ofList (Text.decode bytes.toList)
    return (text.splitOn "\x00").filterMap Environment.variable?
  catch _ => return []

def look (path : String) : IO PathContents := do
  try
    return .file (← IO.FS.readFile path)
  catch
    | .noFileOrDirectory .. => return .nothing
    | _ => return .unreadable

def makeFolder (folder : String) : IO Bool := do
  try
    IO.FS.createDirAll folder
    return true
  catch _ => return false

def openLog (folder name : String) : IO Bool := do
  try
    let _ ← IO.FS.Handle.mk (folder ++ "/" ++ name) .append
    return true
  catch _ => return false

/-- There is no way to a network from here. -/
def fetch : Fetch IO := fun url =>
  return .error (.network ("no connection for " ++ url) false)

/-- The machine that the program runs on. -/
def platform : Platform IO where
  environment := environment
  look := look
  makeFolder := makeFolder
  openLog := openLog
  client := fun _ => fetch

end Machine

end PluginRecovery

def main (arguments : List String) : IO UInt32 := do
  let outcome ← PluginRecovery.Program.run PluginRecovery.Machine.platform arguments
  IO.print outcome.output
  IO.eprint outcome.complaint
  return outcome.status.toUInt32
