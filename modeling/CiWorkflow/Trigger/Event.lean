/-!
# Events

The events that can start a workflow, and the activity types by which some of them can be filtered.
-/

namespace CiWorkflow

/-- The activity types that an event takes. -/
inductive ActivityTypes where
  /-- These alone. -/
  | closed (allowed : List String)
  /-- Any text. -/
  | anything
deriving DecidableEq

namespace Event

def known : List String :=
  ["push", "pull_request", "pull_request_target", "workflow_dispatch", "workflow_call",
    "workflow_run", "repository_dispatch", "schedule", "create", "delete", "deployment",
    "deployment_status", "fork", "gollum", "issue_comment", "issues", "label", "milestone",
    "page_build", "project", "project_card", "project_column", "public", "pull_request_review",
    "pull_request_review_comment", "registry_package", "release", "status", "watch",
    "branch_protection_rule", "check_run", "check_suite", "discussion", "discussion_comment",
    "merge_group"]

def isKnown (event : String) : Bool := known.contains event

/-! ## Activity types -/

/-- What happens to things that are only written and deleted. -/
def writingTypes : List String := ["created", "edited", "deleted"]

def checkRunTypes : List String := ["created", "rerequested", "completed", "requested_action"]

def discussionTypes : List String :=
  ["created", "edited", "deleted", "transferred", "pinned", "unpinned", "labeled", "unlabeled",
    "locked", "unlocked", "category_changed", "answered", "unanswered"]

def issueTypes : List String :=
  ["opened", "edited", "deleted", "transferred", "pinned", "unpinned", "closed", "reopened",
    "assigned", "unassigned", "labeled", "unlabeled", "locked", "unlocked", "milestoned",
    "demilestoned", "typed", "untyped"]

def milestoneTypes : List String := ["created", "closed", "opened", "edited", "deleted"]

def pullRequestTypes : List String :=
  ["assigned", "auto_merge_disabled", "auto_merge_enabled", "closed", "converted_to_draft",
    "edited", "labeled", "locked", "opened", "ready_for_review", "reopened", "review_requested",
    "review_request_removed", "synchronize", "unassigned", "unlabeled", "unlocked"]

def releaseTypes : List String :=
  ["published", "unpublished", "created", "edited", "deleted", "prereleased", "released"]

def workflowRunTypes : List String := ["completed", "requested", "in_progress"]

/-- The events that can be filtered by activity types, and what they take. -/
def activityTable : List (String × ActivityTypes) :=
  [("branch_protection_rule", .closed writingTypes),
    ("check_run", .closed checkRunTypes),
    ("check_suite", .closed ["completed"]),
    ("discussion", .closed discussionTypes),
    ("discussion_comment", .closed writingTypes),
    ("issue_comment", .closed writingTypes),
    ("issues", .closed issueTypes),
    ("label", .closed writingTypes),
    ("merge_group", .closed ["checks_requested"]),
    ("milestone", .closed milestoneTypes),
    ("pull_request", .closed pullRequestTypes),
    ("pull_request_target", .closed pullRequestTypes),
    ("pull_request_review", .closed ["submitted", "edited", "dismissed"]),
    ("pull_request_review_comment", .closed writingTypes),
    ("registry_package", .closed ["published", "updated"]),
    ("release", .closed releaseTypes),
    ("watch", .closed ["started"]),
    ("workflow_run", .closed workflowRunTypes),
    ("repository_dispatch", .anything)]

/-- The activity types of an event, if it can be filtered by them. -/
def activityTypes? (event : String) : Option ActivityTypes := activityTable.lookup event

end Event

end CiWorkflow
