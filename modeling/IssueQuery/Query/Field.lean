import IssueQuery.Text.Blank
import IssueQuery.Text.Case
import IssueQuery.Text.Order

/-!
# Kinds of records and their fields

The catalogue of what can be queried: the kinds of records of a tracker and, for each of them, the
fields with their types.
-/

namespace IssueQuery

/-- A kind of record of a tracker. -/
inductive EntityKind where
  | issue
  | userStory
  | task
  deriving DecidableEq, Inhabited

namespace EntityKind

/-- The name of a kind in query specifications and messages. -/
def name : EntityKind → String
  | issue => "ISSUE"
  | userStory => "USER_STORY"
  | task => "TASK"

/-- The name of the list of all records of a kind. -/
def plural : EntityKind → String
  | issue => "issues"
  | userStory => "user_stories"
  | task => "tasks"

/-- The kind whose records make up the list with a given name. -/
def ofPlural? (s : String) : Option EntityKind :=
  [issue, userStory, task].find? (·.plural = s)

/-- The spellings under which callers may ask for a kind. -/
def spellings : List (String × EntityKind) := [
  ("issue", issue),
  ("issues", issue),
  ("user_story", userStory),
  ("user_stories", userStory),
  ("userstory", userStory),
  ("userstories", userStory),
  ("task", task),
  ("tasks", task)]

/-- The kind that a text spells, letter case and blanks at its ends aside. -/
def ofSpelling? (s : String) : Option EntityKind :=
  spellings.lookup (Text.lower (Text.trim s))

end EntityKind

/-- What the values of a field are. -/
inductive FieldType where
  | string
  | enum
  | number
  | date
  | boolean
  | array
  deriving DecidableEq

/-- The name of a type in messages. -/
def FieldType.name : FieldType → String
  | string => "string"
  | enum => "enum"
  | number => "number"
  | date => "date"
  | boolean => "boolean"
  | array => "array"

namespace Field

/-- The fields that records of all kinds have. -/
def common : List (String × FieldType) := [
  ("subject", .string),
  ("description", .string),
  ("status", .enum),
  ("assignee", .string),
  ("owner", .string),
  ("tags", .array),
  ("created", .date),
  ("updated", .date),
  ("closed", .boolean),
  ("due_date", .date),
  ("finish_date", .date),
  ("blocked", .boolean),
  ("milestone", .string),
  ("attachments", .number),
  ("comments", .number),
  ("ref", .number)]

/-- The fields that records of one kind have besides. -/
def special : EntityKind → List (String × FieldType)
  | .issue => [("priority", .enum), ("type", .enum), ("severity", .enum), ("reporter", .string)]
  | .userStory => [("points", .number), ("priority", .enum), ("epic", .string)]
  | .task => [("user_story", .string)]

/-- The catalogue of a kind of records. -/
def catalogue (kind : EntityKind) : List (String × FieldType) :=
  common ++ special kind

/-- The type of a field in the catalogue of a kind. -/
def type? (kind : EntityKind) (field : String) : Option FieldType :=
  (catalogue kind).lookup field

/-- Whether a field is in the catalogue of a kind. -/
def isKnown (kind : EntityKind) (field : String) : Bool :=
  (type? kind field).isSome

/-- Other names of fields. -/
def aliases : List (String × String) := [
  ("sprint", "milestone"),
  ("assigned", "assignee"),
  ("created_by", "owner"),
  ("is_blocked", "blocked"),
  ("is_closed", "closed"),
  ("has_attachments", "attachments")]

/-- The catalogue name of a field, letter case aside. -/
def canonical (name : String) : String :=
  let lowered := Text.lower name
  (aliases.lookup lowered).getD lowered

/-- Values with a meaning of their own in comparisons for equality with a field. -/
def specialValues : List (String × List String) := [
  ("milestone", ["active", "closed", "null", "*"]),
  ("due_date", ["past", "upcoming", "null"]),
  ("epic", ["null", "*"]),
  ("user_story", ["null"]),
  ("blocked", ["true", "false"]),
  ("closed", ["true", "false"])]

/-- The values with a meaning of their own for one field. -/
def specialValuesOf (field : String) : List String :=
  (specialValues.lookup field).getD []

/-- The values of a status that trackers know by default. -/
def statusValues : EntityKind → List String
  | .issue => ["new", "in-progress", "ready-for-test", "closed", "needs-info", "rejected"]
  | .userStory => ["new", "in-progress", "ready-for-test", "done"]
  | .task => ["new", "in-progress", "ready-for-test", "closed"]

/-- The values that trackers know by default for a field with a fixed vocabulary. -/
def knownValues (kind : EntityKind) (field : String) : List String :=
  match field with
  | "status" => statusValues kind
  | "priority" => ["low", "normal", "high", "urgent"]
  | "type" => ["bug", "feature", "enhancement", "task", "story"]
  | "severity" => ["minor", "normal", "important", "critical"]
  | _ => []

end Field

end IssueQuery
