import IssueQuery.Command.Arguments
import IssueQuery.Query.Statistics
import IssueQuery.Remote.Source
import IssueQuery.Search
import IssueQuery.Settings.File
import IssueQuery.Source.Store

/-!
# The command

Runs or checks a single query, on a file with records or on the remote tracker, and tells its
result.
-/

namespace IssueQuery.Command

/-- Why the command has no result. -/
inductive Failure where
  | settings (e : Settings.LoadError)
  /-- There is no file with records. -/
  | missingRecords (name : String)
  | unreadableRecords (e : Json.ReadError)
  /-- The file with records does not name them. -/
  | notObject (name : String)
  /-- The remote tracker needs to be told a project. -/
  | missingProject
  | search (e : SearchError)

namespace Failure

/-- The message about a failure. -/
def message : Failure → String
  | .settings e => e.message
  | .missingRecords name => "Records file not found: " ++ name
  | .unreadableRecords e => e.message
  | .notObject name => "Records file " ++ name ++ " must contain a JSON object"
  | .missingProject => "--project is required when querying the Taiga API"
  | .search e => e.message

/-- The code that callers know a failure by, if it has one. -/
def code? : Failure → Option String
  | .search e => e.code?
  | _ => none

/-- A failure as a value. -/
def toValue (f : Failure) : Value :=
  .object [("error", .string f.message), ("error_code", Value.ofString? f.code?)]

end Failure

/-- What the command works with. -/
structure Surroundings where
  files : Settings.Files
  environment : Settings.Environment
  now : Moment

/-- A text that is given and not empty. -/
def given? (text : Option String) : Option String :=
  text.filter (!·.isEmpty)

/-- The records in a file. -/
def readStore (files : Settings.Files) (name : String) : Except Failure Store :=
  match files.lookup name with
  | none => .error (.missingRecords name)
  | some text =>
    match Json.read text with
    | .error e => .error (.unreadableRecords e)
    | .ok (.object fields) => .ok (Store.ofValue (.object fields))
    | .ok _ => .error (.notObject name)

/-- Checks a query and describes it. -/
def check (settings : Settings) (kind : EntityKind) (query : String) : Except Failure Value :=
  match Search.validate kind.plural (some query) with
  | .error e => .error (.search e)
  | .ok q => .ok (.object [
      ("valid", .bool true),
      ("query", q.toValue),
      ("stats", (Statistics.ofQuery q (some (.double settings.maxComplexity))).toValue)])

/-- Runs a query on a source and describes its result. -/
def runOn {σ : Type} (settings : Settings) (source : RecordSource σ) (state : σ) (now : Moment)
    (a : Arguments) (query : String) : Except Failure Value :=
  let identifier := (given? a.project).map Value.string
  match ((Search.searchProject source now identifier a.kind.plural query settings).run state).1 with
  | .ok r => .ok r.toValue
  | .error e => .error (.search e)

/-- What the command tells if its arguments ask for a query. -/
def answer (s : Surroundings) (a : Arguments) (query : String) : Except Failure Value := do
  let settings ← (Settings.load s.files s.environment a.config).mapError .settings
  match given? a.records with
  | some name =>
    let store ← readStore s.files name
    if a.validate then check settings a.kind query
    else runOn (σ := Unit) settings store.source () s.now a query
  | none =>
    if a.validate then check settings a.kind query
    else if (given? a.project).isNone then throw .missingProject
    else
      let client := Remote.Client.offline settings
      runOn settings client.source (.start settings 0 ()) s.now a query

/-- How the command ends. -/
inductive Outcome where
  /-- It tells how it is used. -/
  | help
  /-- Its arguments are refused. -/
  | misused (m : Misuse)
  | failed (f : Failure)
  /-- It has a result, which goes to a file if one is named. -/
  | done (result : Value) (output : Option String)

/-- Runs the command. -/
def run (s : Surroundings) (arguments : List String) : Outcome :=
  match Arguments.read arguments with
  | .error m => .misused m
  | .ok none => .help
  | .ok (some a) =>
    match answer s a (a.query.getD "") with
    | .ok v => .done v (given? a.output)
    | .error f => .failed f

end IssueQuery.Command
