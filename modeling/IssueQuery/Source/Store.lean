import IssueQuery.Source.Basic
import IssueQuery.Value.Text

/-!
# Stored records

A source whose records are all at hand.  Records that name a project belong to it alone; records
that do not are shared by all projects.
-/

namespace IssueQuery

/-- Records at hand. -/
structure Store where
  issues : List Record := []
  userStories : List Record := []
  tasks : List Record := []
  projects : List Record := []
  deriving Inhabited

namespace Store

/-- The records of a list; what is no list holds none. -/
def recordsOf : Value → List Record
  | .list items => Record.ofValues items
  | _ => []

/-- The store that an object with lists of records describes. -/
def ofValue (v : Value) : Store where
  issues := recordsOf (v.get "issues")
  userStories := recordsOf (v.get "user_stories")
  tasks := recordsOf (v.get "tasks")
  projects := recordsOf (v.get "projects")

/-- Whether a record is to be listed for a project. -/
def belongsTo (project : Value) (r : Record) : Bool :=
  match r.content.get? "project" with
  | none => true
  | some p => project.isNull || p.display == project.display

/-- Whether a task is one of a user story. -/
def isTaskOf (story : Value) (r : Record) : Bool :=
  (r.get "user_story").display == story.display

/-- Whether a record is the project with a given name. -/
def isNamed (name : String) (r : Record) : Bool :=
  match r.get "slug" with
  | .string s => s == name
  | _ => false

/-- The message about a name that no project has. -/
def unknownProject (name : String) : String :=
  "Project '" ++ name ++ "' not found"

/-- The first project with a given name. -/
def projectNamed? (s : Store) (name : String) : Except String Record :=
  match s.projects.find? (isNamed name) with
  | some r => .ok r
  | none => .error (unknownProject name)

/-- The source that takes its records from a store. -/
def source {σ : Type} (s : Store) : RecordSource σ where
  issues project := pure (s.issues.filter (belongsTo project))
  userStories project := pure (s.userStories.filter (belongsTo project))
  tasks story := pure (s.tasks.filter (isTaskOf story))
  projectNamed? := some fun name =>
    match s.projectNamed? name with
    | .ok r => pure r.content
    | .error message => throw (.broken message)

end Store

end IssueQuery
