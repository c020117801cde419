import PluginRecovery.CommandLine.Options
import PluginRecovery.Settings.Layers

/-!
The command line of the program: five commands on a plugin file, and three switches that may stand
before or after the command.
-/

set_option autoImplicit false
set_option relaxedAutoImplicit false

namespace PluginRecovery

open PluginRecovery.CommandLine

/-- What is to be done with a plugin file. -/
inductive Command where
  /-- Print the recipe. -/
  | analyze (pretty : Bool)
  /-- List works, by a query if there is one. -/
  | search (query : Option String) (page : Nat)
  /-- Print the details of a work. -/
  | details (url : String)
  /-- Print the chapters of a work. -/
  | chapters (url : String)
  /-- Print the text of a chapter. -/
  | content (url : String)
  deriving DecidableEq, Repr

def Command.name : Command → String
  | .analyze _ => "analyze"
  | .search _ _ => "search"
  | .details _ => "details"
  | .chapters _ => "chapters"
  | .content _ => "content"

/-- A command line that can be carried out. -/
structure Invocation where
  command : Command
  file : String
  config : Option String
  logLevel : Option String
  strategy : Option Strategy
  deriving DecidableEq, Repr

namespace Invocation

/-- The switches that every level has. -/
def sharedSwitches : List Switch := [
  ⟨"config", some 'c', .value⟩,
  ⟨"log-level", some 'l', .value⟩,
  ⟨"strategy", some 's', .value⟩,
  ⟨"help", some 'h', .help⟩]

def topLevel : Level where
  switches := sharedSwitches ++ [⟨"version", some 'V', .version⟩]
  positionals := []
  required := 0
  subcommands := ["analyze", "search", "details", "chapters", "content", "help"]

/-- What a command can be given. -/
def levelOf (command : String) : Level :=
  match command with
  | "analyze" => ⟨sharedSwitches ++ [⟨"pretty", none, .flag⟩], ["file"], 1, []⟩
  | "search" => ⟨sharedSwitches ++ [⟨"page", some 'p', .value⟩], ["file", "query"], 1, []⟩
  | _ => ⟨sharedSwitches, ["file", "url"], 2, []⟩

/-- A page is a whole number below `2 ^ 32`. -/
def page? (text : String) : Option Nat :=
  match Decimal.int64? text.toList with
  | none => none
  | some n => if 0 ≤ n ∧ n < 0x100000000 then some n.toNat else none

/-- A path is not empty, a strategy has a known name, a page is a page. -/
def check : Check := fun argument value =>
  match argument with
  | "file" => if value.isEmpty then .error .invalidValue else .ok ()
  | "config" => if value.isEmpty then .error .invalidValue else .ok ()
  | "strategy" => if (Strategy.ofName? value).isNone then .error .invalidValue else .ok ()
  | "page" => if (page? value).isNone then .error .valueValidation else .ok ()
  | _ => .ok ()

/-- Help for a command, or for the program, is shown; `help` itself has no commands. -/
def helpFor (level : Level) : List String → UsageError
  | [] => .displayHelp
  | name :: rest =>
    if !level.subcommands.contains name then .invalidSubcommand
    else if name = "help" then helpFor ⟨[], [], 0, []⟩ rest
    else helpFor (levelOf name) rest

def commandOf (name : String) (values : List (String × String)) : Command :=
  let url := (values.lookup "url").getD ""
  match name with
  | "analyze" => .analyze (values.lookup "pretty").isSome
  | "search" =>
    .search (values.lookup "query") (((values.lookup "page").bind page?).getD 1)
  | "details" => .details url
  | "chapters" => .chapters url
  | _ => .content url

/-- Read the arguments of the program. A switch given after the command counts more than before
it. -/
def parse (arguments : List String) : Except UsageError Invocation := do
  let top ← readLevel check topLevel arguments {}
  match top.subcommand with
  | none =>
    let _ ← finishLevel check topLevel top
    throw .missingSubcommand
  | some ("help", rest) => throw (helpFor topLevel rest)
  | some (name, rest) =>
    let level := levelOf name
    let values ← finishLevel check level (← readLevel check level rest {})
    let shared ← finishLevel check topLevel top
    let values := values ++ shared
    return {
      command := commandOf name values
      file := (values.lookup "file").getD ""
      config := values.lookup "config"
      logLevel := values.lookup "log-level"
      strategy := (values.lookup "strategy").bind Strategy.ofName? }

def overrides (i : Invocation) : Settings.Overrides :=
  ⟨i.logLevel, i.strategy⟩

end Invocation

end PluginRecovery
