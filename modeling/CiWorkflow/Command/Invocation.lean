import CiWorkflow.Command.Help
/-!
# Invocations

How the command line is understood: the settings file first, then a command with its own arguments.
The settings file may also come from the environment, and the command line wins.

Main definitions:

- `Invocation.ofArguments?`: the meaning of a command line;
- `Invocation.run`: its outcome.
-/

namespace CiWorkflow

/-- What a command line asks for. -/
inductive Request where
  | help (topic : HelpTopic)
  | version
  /-- Nothing, which gets the help text for the program. -/
  | nothing
  | command (c : Command)
deriving DecidableEq

/-- A command line. -/
structure Invocation where
  /-- The settings file. -/
  config : Option String
  /-- What is asked for. -/
  request : Request
deriving DecidableEq

def versionText : String := "actionflow 0.1.0\n"

/-! ## Reading -/

/-- Whether an argument begins with a hyphen and is more than that. -/
def isSwitch (arg : String) : Bool := arg.startsWith "-" && arg != "-"

/-- Whether an argument asks for help. Letters behind the short form are not looked at. -/
def asksHelp (arg : String) : Bool := arg == "--help" || arg.startsWith "-h"

def asksVersion (arg : String) : Bool := arg == "--version" || arg.startsWith "-V"

namespace CommandName

/-- The command of this name, with its operands and its switch. -/
def command? (name : CommandName) (operands : List String) (switched : Bool) : Option Command :=
  match name, operands with
  | .check, [file] => some (.check file)
  | .lint, [file] => some (.lint file switched)
  | .format, [file] => some (.format file switched)
  | .layout, [file] => some (.layout file)
  | .triggers, [file] => some (.triggers file)
  | .new, [] => some (.new switched)
  | _, _ => none

/-- What the arguments behind the name of a command ask for, after those operands and maybe the
switch. The first argument that makes no sense decides, unless help was asked for before. -/
def request? (name : CommandName) (operands : List String) (switched : Bool) :
    List String → Option Request
  | [] => (name.command? operands switched).map .command
  | arg :: rest =>
    -- behind two hyphens there are only operands
    if arg = "--" then (name.command? (operands ++ rest) switched).map .command
    else if asksHelp arg then some (.help (.command name))
    else if isSwitch arg then
      if name.switch?.any (·.1 == arg) && !switched then request? name operands true rest
      else none
    else if name.readsFile && operands.isEmpty then request? name [arg] switched rest
    else none

end CommandName

namespace Invocation

/-- The settings file and the request of arguments, after those that named the settings file. -/
def settingsAndRequest? (config : Option String) : List String → Option (Option String × Request)
  | [] => some (config, .nothing)
  | "--config" :: file :: rest =>
    if config.isSome || isSwitch file then none else settingsAndRequest? (some file) rest
  | arg :: rest =>
    if arg.startsWith "--config=" then
      if config.isSome then none else settingsAndRequest? (some (arg.drop 9).toString) rest
    else if asksHelp arg then some (config, .help .program)
    else if asksVersion arg then some (config, .version)
    else if arg = "--" then if rest.isEmpty then some (config, .nothing) else none
    else if arg = "help" then (HelpTopic.ofNames? rest).map fun topic => (config, .help topic)
    else do
      let name ← CommandName.ofText? arg
      return (config, ← name.request? [] false rest)

/-- What a command line asks for, with the settings file that the environment names. -/
def ofArguments? (environment : Option String) (args : List String) : Option Invocation :=
  (settingsAndRequest? none args).map fun (config, request) => ⟨config <|> environment, request⟩

/-- The files that may be read. -/
def files (i : Invocation) : List String :=
  i.config.toList ++
    match i.request with
    | .command c => c.file?.toList
    | _ => []

/-- The outcome of a command line. Help and version come before the settings, all else after. -/
def run (environment : Option String) (files : Files) (i : Invocation) : Outcome :=
  match i.request with
  | .help topic => .printed (topic.text environment)
  | .version => .printed versionText
  | .nothing => withSettings fun _ => .printed (HelpTopic.program.text environment ++ "\n")
  | .command c => withSettings fun settings => c.run settings files
where
  /-- Settings that cannot be read spoil even what does not use them. -/
  withSettings (act : Settings → Outcome) : Outcome :=
    match Settings.load files i.config with
    | .error message => .failure message
    | .ok settings => act settings

end Invocation

end CiWorkflow
