/-!
Reading command lines. A level of a command has switches, positional arguments and subcommands; its
arguments are read from left to right. A value is settled, which is when it is checked, no sooner
than the next switch or positional argument is read.
-/

set_option autoImplicit false
set_option relaxedAutoImplicit false

namespace PluginRecovery.CommandLine

/-- Why a command line is not carried out: help or the version is asked for, or it is wrong. -/
inductive UsageError where
  | displayHelp
  | displayVersion
  | displayHelpOnMissing
  | missingRequired
  | missingSubcommand
  | unknownArgument
  | invalidSubcommand
  | invalidValue
  | valueValidation
  | tooManyValues
  | argumentConflict
  deriving DecidableEq, Repr

inductive Role where
  | value
  | flag
  | help
  | version
  deriving DecidableEq, Repr

/-- A switch: two hyphens and its name, or one hyphen and its letter. -/
structure Switch where
  name : String
  letter : Option Char
  role : Role
  deriving DecidableEq, Repr

/-- What can be given at one level of a command. `required` of the positional arguments must be. -/
structure Level where
  switches : List Switch
  positionals : List String
  required : Nat
  subcommands : List String

/-- A rule for the values of an argument. -/
abbrev Check := (argument value : String) → Except UsageError Unit

/-- An argument that is read and not settled: the value may still be missing. -/
structure Unsettled where
  argument : String
  value : Option String

/-- How far the reading of a level has got. -/
structure Progress where
  /-- The settled arguments and their values, the latest first. -/
  settled : List (String × String) := []
  unsettled : Option Unsettled := none
  /-- The positional arguments read so far. -/
  positionals : Nat := 0
  /-- All that follows is positional. -/
  onlyPositionals : Bool := false

namespace Progress

/-- Whether the next argument is the value of a switch. -/
def awaitsValue (p : Progress) : Bool :=
  match p.unsettled with
  | some ⟨_, none⟩ => true
  | _ => false

/-- Settle a value: no argument may have two. -/
def settleValue (check : Check) (argument value : String) (p : Progress) :
    Except UsageError Progress :=
  if (p.settled.lookup argument).isSome then .error .argumentConflict
  else do
    check argument value
    return { p with settled := (argument, value) :: p.settled, unsettled := none }

def settle (check : Check) (p : Progress) : Except UsageError Progress :=
  match p.unsettled with
  | none => .ok p
  | some ⟨_, none⟩ => .error .invalidValue
  | some ⟨argument, some value⟩ => p.settleValue check argument value

/-- Read a switch, with the value attached to it if there is one. -/
def readSwitch (check : Check) (switch : Switch) (attached : Option String) (p : Progress) :
    Except UsageError Progress := do
  match switch.role, attached with
  | .value, some value =>
    let p ← p.settle check
    p.settleValue check switch.name value
  | .value, none =>
    let p ← p.settle check
    return { p with unsettled := some ⟨switch.name, none⟩ }
  | _, some _ => throw .tooManyValues
  | .flag, none =>
    let p ← p.settle check
    p.settleValue check switch.name "true"
  | .help, none =>
    let _ ← p.settle check
    throw .displayHelp
  | .version, none =>
    let _ ← p.settle check
    throw .displayVersion

/-- Read switches by their letters. What follows the letter of a switch with a value is its value,
after an equals sign if there is one. -/
def readLetters (check : Check) (level : Level) : List Char → Progress → Except UsageError Progress
  | [], p => .ok p
  | letter :: rest, p =>
    match level.switches.find? fun switch => switch.letter == some letter with
    | none => .error .unknownArgument
    | some switch =>
      if switch.role = .value then
        let attached := match rest with
          | [] => none
          | '=' :: value => some (String.ofList value)
          | value => some (String.ofList value)
        p.readSwitch check switch attached
      else do
        let p ← p.readSwitch check switch none
        p.readLetters check level rest

/-- Read a switch by its name, which an equals sign and a value may follow. -/
def readName (check : Check) (level : Level) (text : List Char) (p : Progress) :
    Except UsageError Progress :=
  let name := String.ofList (text.takeWhile (· != '='))
  let attached := match text.dropWhile (· != '=') with
    | [] => none
    | _ :: value => some (String.ofList value)
  match level.switches.find? fun switch => switch.name == name with
  | none => .error .unknownArgument
  | some switch => p.readSwitch check switch attached

/-- Read a positional argument. One too many is an unknown argument, or, where only a subcommand is
expected, an unknown subcommand. -/
def readPositional (check : Check) (level : Level) (text : String) (p : Progress) :
    Except UsageError Progress :=
  match level.positionals[p.positionals]? with
  | some argument => do
    let p ← p.settle check
    return { p with unsettled := some ⟨argument, some text⟩, positionals := p.positionals + 1 }
  | none =>
    if level.subcommands.isEmpty then .error .unknownArgument
    else if p.onlyPositionals && level.subcommands.contains text then .error .unknownArgument
    else .error .invalidSubcommand

/-- Read one argument that names no subcommand. -/
def readArgument (check : Check) (level : Level) (text : String) (p : Progress) :
    Except UsageError Progress :=
  if p.onlyPositionals then p.readPositional check level text
  else
    match text.toList with
    | ['-', '-'] => .ok { p with onlyPositionals := true }
    | '-' :: '-' :: name => p.readName check level name
    | '-' :: c :: letters => p.readLetters check level (c :: letters)
    | _ =>
      match p.unsettled with
      | some ⟨argument, none⟩ => .ok { p with unsettled := some ⟨argument, some text⟩ }
      | _ => p.readPositional check level text

/-- Whether an argument names a subcommand here. -/
def namesSubcommand (level : Level) (text : String) (p : Progress) : Bool :=
  !p.onlyPositionals && !p.awaitsValue && level.subcommands.contains text

end Progress

/-- What a level was given, and the subcommand with its arguments. -/
structure Given where
  progress : Progress
  subcommand : Option (String × List String)

/-- Read the arguments of a level up to a subcommand. -/
def readLevel (check : Check) (level : Level) : List String → Progress → Except UsageError Given
  | [], p => .ok ⟨p, none⟩
  | text :: rest, p =>
    if p.namesSubcommand level text then .ok ⟨p, some (text, rest)⟩
    else do
      let p ← p.readArgument check level text
      readLevel check level rest p

/-- Settle what a level was given, if nothing required is missing. -/
def finishLevel (check : Check) (level : Level) (given : Given) :
    Except UsageError (List (String × String)) := do
  let p ← given.progress.settle check
  if given.subcommand.isNone && !level.subcommands.isEmpty then
    throw (if p.settled.isEmpty then .displayHelpOnMissing else .missingSubcommand)
  if p.positionals < level.required then throw .missingRequired
  return p.settled

end PluginRecovery.CommandLine
