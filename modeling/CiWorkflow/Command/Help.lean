import CiWorkflow.Command
/-!
# Help texts

The commands have names, switches and explanations, from which the help texts are put together.

Main definitions:

- `CommandName.ofText?`: the command of a name;
- `HelpTopic.text`: the help text for a topic.
-/

namespace CiWorkflow

/-! ## Names of commands -/

inductive CommandName where
  | check
  | lint
  | format
  | layout
  | triggers
  | new
deriving DecidableEq

namespace CommandName

/-- All names, in the order in which they are listed. -/
def all : List CommandName := [.check, .lint, .format, .layout, .triggers, .new]

/-- The name as it is written. -/
def text : CommandName → String
  | .check => "check"
  | .lint => "lint"
  | .format => "fmt"
  | .layout => "layout"
  | .triggers => "triggers"
  | .new => "new"

def ofText? (s : String) : Option CommandName := all.find? (·.text == s)

def about : CommandName → String
  | .check => "Parse and lint a workflow, failing on any error"
  | .lint => "Print lint diagnostics for a workflow"
  | .format => "Rewrite a workflow in canonical form"
  | .layout => "Print the job graph layout as JSON"
  | .triggers => "List the normalized triggers of a workflow"
  | .new => "Print a new workflow"

/-- The switch that the command has, and what it does. -/
def switch? : CommandName → Option (String × String)
  | .lint => some ("--json", "Print diagnostics as a JSON array")
  | .format => some ("--write", "Write the result back to the file instead of stdout")
  | .new => some ("--sample", "Print the two-job sample workflow instead of a blank one")
  | .check | .layout | .triggers => none

def readsFile : CommandName → Bool
  | .new => false
  | .check | .lint | .format | .layout | .triggers => true

end CommandName

/-! ## Topics -/

/-- What help can be asked for. -/
inductive HelpTopic where
  | program
  | command (name : CommandName)
  | help
deriving DecidableEq

namespace HelpTopic

/-- The topic of the names behind a request for help. -/
def ofNames? : List String → Option HelpTopic
  | [] => some .program
  | ["help"] => some .help
  | [name] => (CommandName.ofText? name).map .command
  | _ => none

/-- What the help does. -/
def aboutHelp : String := "Print this message or the help of the given subcommand(s)"

/-- A heading and entries with their meanings, which all begin in one column. -/
def table (heading : String) (rows : List (String × String)) : List String :=
  let width := (rows.map (·.1.length)).foldl max 0
  heading :: rows.map fun (entry, meaning) =>
    "  " ++ entry ++ String.ofList (List.replicate (width - entry.length) ' ') ++ "  " ++ meaning

/-- The option that asks for help. -/
def helpOption : String × String := ("-h, --help", "Print help")

/-- The help text for the program, in which the settings file of the environment is told. -/
def programLines (environment : Option String) : List String :=
  ["Actionflow CLI — CI workflow tooling", "", "Usage: actionflow [OPTIONS] [COMMAND]", ""] ++
    table "Commands:"
      (CommandName.all.map (fun name => (name.text, name.about)) ++ [("help", aboutHelp)]) ++
    [""] ++
    table "Options:"
      [("    --config <CONFIG>",
          "Path to a YAML settings file with `layout:` and `lint:` sections " ++
            "[env: ACTIONFLOW_CONFIG=" ++ environment.getD "" ++ "]"),
        helpOption,
        ("-V, --version", "Print version")]

def commandLines (name : CommandName) : List String :=
  let usage :=
    "Usage: actionflow " ++ name.text ++ (if name.switch?.isSome then " [OPTIONS]" else "") ++
      if name.readsFile then " <FILE>" else ""
  let options := name.switch?.toList.map fun (switch, meaning) => ("    " ++ switch, meaning)
  [name.about, "", usage, ""] ++
    (if name.readsFile then table "Arguments:" [("<FILE>", "Workflow YAML file")] ++ [""]
      else []) ++
    table "Options:" (options ++ [helpOption])

def helpLines : List String :=
  [aboutHelp, "", "Usage: actionflow help [COMMAND]...", ""] ++
    table "Arguments:" [("[COMMAND]...", "Print help for the subcommand(s)")]

/-- The help text for a topic. -/
def text (environment : Option String) (topic : HelpTopic) : String :=
  let lines := match topic with
    | .program => programLines environment
    | .command name => commandLines name
    | .help => helpLines
  String.join (lines.map (· ++ "\n"))

end HelpTopic

end CiWorkflow
