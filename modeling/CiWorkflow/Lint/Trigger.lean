import CiWorkflow.Lint
import CiWorkflow.Lint.Grammar
import CiWorkflow.Trigger
import CiWorkflow.Trigger.Event
/-!
# Checks of triggers

Every trigger is checked by itself: the event has to be known, its filters have to be texts of the
allowed kinds, and some events need a certain field. A filter that is null is not there.
-/

namespace CiWorkflow.Lint

open Yaml (Value)

/-- How many values are told in a message. -/
def listed : Nat := 10

/-- The items of a filter: those of its list, or the filter itself. -/
def filterItems : Value → List Value
  | .sequence items => items
  | v => [v]

/-- The value of a filter that is there and not null. -/
def filter? (config : TriggerConfig) (key : String) : Option Value :=
  (config.get? key).filter fun v => !v.isNull

def triggerPath (index : Nat) (event : String) : String :=
  "on[" ++ toString index ++ "]." ++ event

def checkEvent (event path : String) : List Diagnostic :=
  report (!Event.isKnown event) <|
    .error path ("Invalid trigger event: \"" ++ event ++ "\". Valid events: " ++
      ", ".intercalate (Event.known.take listed) ++ ", ...")

/-- The filters of a push or a pull request, with the name of the things they choose. -/
def textFilters : List (String × String) :=
  [("branches", "Branches"), ("tags", "Tags"), ("paths", "Paths"), ("paths-ignore", "Paths")]

/-- Whether a filter has nothing but texts. -/
def checkTextFilter (event path : String) (config : TriggerConfig) (key name : String) :
    List Diagnostic :=
  match filter? config key with
  | some v =>
    report (!(filterItems v).all Value.isString) <|
      .error (path ++ "." ++ key)
        ("Invalid " ++ key ++ " format in " ++ event ++ " trigger. " ++ name ++ " must be strings.")
  | none => []

/-- Whether all filters of a push or a pull request have nothing but texts. -/
def checkTextFilters (event path : String) (config : TriggerConfig) : List Diagnostic :=
  if event = "push" || event = "pull_request" then
    textFilters.flatMap fun f => checkTextFilter event path config f.1 f.2
  else []

/-- Whether an activity type is among the allowed ones. Runs of workflows cannot be filtered by
others, for all other events more types may come. -/
def checkActivity (event path : String) (allowed : List String) (activity : String) :
    List Diagnostic :=
  let message := "Invalid " ++ event ++ " type: \"" ++ activity ++ "\". Valid types: " ++
    ", ".intercalate (allowed.take listed) ++ if listed < allowed.length then ", ..." else ""
  report (!allowed.contains activity) <|
    if event = "workflow_run" then .error (path ++ ".types") message
    else .warning (path ++ ".types") message

/-- Whether the activity types fit the event. -/
def checkTypes (event path : String) (config : TriggerConfig) : List Diagnostic :=
  match filter? config "types", Event.activityTypes? event with
  | some v, some .anything =>
    report (!(filterItems v).all Value.isString) <|
      .error (path ++ ".types") (event ++ " types must be strings")
  | some v, some (.closed allowed) =>
    ((filterItems v).filterMap Value.asString?).flatMap (checkActivity event path allowed)
  | _, _ => []

/-- Whether a value names workflows: a text, or a list of nothing but texts, and not empty. -/
def namesWorkflows : Option Value → Bool
  | some (.string name) => !name.isEmpty
  | some (.sequence names) => !names.isEmpty && names.all Value.isString
  | _ => false

/-- Whether a trigger by runs of workflows names them. -/
def checkWorkflows (event path : String) (config : TriggerConfig) : List Diagnostic :=
  report (event == "workflow_run" && !namesWorkflows (config.get? "workflows")) <|
    .error path "workflow_run trigger requires a \"workflows\" field (string or list of strings)"

/-- Whether a schedule has a cron expression. -/
def checkCron (event path : String) (config : TriggerConfig) : List Diagnostic :=
  if event = Trigger.scheduleEvent then
    match config.cron? with
    | none => [.error path "schedule trigger requires a \"cron\" field (string)"]
    | some cron =>
      report (!isCron cron) <|
        .error (path ++ ".cron") ("Invalid cron expression: \"" ++ cron ++
          "\". Format: \"minute hour day month weekday\" (e.g., \"0 0 * * *\")")
  else []

def checkTrigger (index : Nat) (t : Trigger) : List Diagnostic :=
  let path := triggerPath index t.event
  checkEvent t.event path ++ checkTextFilters t.event path t.config ++
    checkTypes t.event path t.config ++ checkWorkflows t.event path t.config ++
    checkCron t.event path t.config

/-- All checks of the triggers of a workflow, of which there has to be one. -/
def checkTriggers (triggers : List Trigger) : List Diagnostic :=
  if triggers.isEmpty then
    [.error "on" "Workflow must have at least one trigger in \"on\" field"]
  else (triggers.mapIdx checkTrigger).flatten

end CiWorkflow.Lint
