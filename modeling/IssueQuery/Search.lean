import IssueQuery.Query.Statistics
import IssueQuery.ResultSet
import IssueQuery.Search.FanOut
import IssueQuery.Settings.Basic

/-!
# Searching

Runs a query on a source of records.  A query is read before the source is asked for anything, so
that a faulty one never reaches it.  The source is waited for as long as the settings allow.
-/

namespace IssueQuery

/-- Why a search gives nothing. -/
inductive SearchError where
  /-- The query is faulty. -/
  | badQuery (e : SyntaxError)
  /-- The records could not be had. -/
  | failed (message : String)
  /-- A moment that the query asks for lies outside the calendar. -/
  | badTime (e : TimeError)
  /-- A project is named by signs that look like digits but write no number, or by digits next to
  what is no blank around a number. -/
  | badInteger (text : String)
  /-- A source gave something that has no fields. -/
  | noFields (v : Value)

namespace SearchError

/-- The message about an error. -/
def message : SearchError → String
  | .badQuery e => e.message
  | .failed message => message
  | .badTime .outOfRange => "date value out of range"
  | .badTime .noEarlierMonth => "year 0 is out of range"
  | .badInteger text => Text.noIntegerMessage text
  | .noFields v => v.noFieldsMessage

/-- The code that callers know an error by, if it has one. -/
def code? : SearchError → Option String
  | .badQuery _ => some SyntaxError.code
  | .failed _ => some "TQ002"
  | _ => none

end SearchError

/-- A search on a source with a state. -/
abbrev Searching (σ α : Type) := ExceptT SearchError (StateM σ) α

namespace Search

/-- What every message about a failed search begins with. -/
def failurePrefix : String := "Query execution failed: "

/-- How the failure of a source is reported. -/
def describe : SourceFailure → String
  | .refused message => message
  | .broken message => failurePrefix ++ message
  | .stalled => failurePrefix ++ "Query execution timeout"

/-- A call of a source as a part of a search. -/
def fetched {σ α : Type} (fetch : Fetch σ α) : Searching σ α :=
  ExceptT.mk fun s =>
    let (result, s) := fetch.run s
    (result.mapError fun e => .failed (describe e), s)

/-- The tasks of a project, where at most `permits` calls are under way at the same time. -/
def projectTasks {σ : Type} (source : RecordSource σ) (permits : Nat) (project : Value) :
    Fetch σ (List Record) := do
  fanOut source permits (← source.userStories project)

/-- The records of a kind in a project. -/
def records {σ : Type} (source : RecordSource σ) (permits : Nat) (kind : EntityKind)
    (project : Value) : Fetch σ (List Record) :=
  match kind with
  | .issue => source.issues project
  | .userStory => source.userStories project
  | .task => projectTasks source permits project

/-- Runs a query that has been read, however long it takes. -/
def execute {σ : Type} (source : RecordSource σ) (permits : Nat) (now : Moment) (project : Value)
    (q : Query) : Searching σ ResultSet := do
  let records ← fetched (records source permits q.kind project)
  match ResultSet.ofRecords q now records with
  | .ok r => return r
  | .error e => throw (.badTime e)

/-- Whether a search that began in the state `start` still has time in another state.  One for which
no time has passed always has. -/
def inTime {σ : Type} (source : RecordSource σ) (settings : Settings) (start s : σ) : Bool :=
  let elapsed := source.time s - source.time start
  match settings.queryTimeout.toRat? with
  | some limit => !(0 < elapsed && limit ≤ elapsed)
  | none => true

/-- The number of calls of a search that may be under way at the same time. -/
def permits (settings : Settings) : Nat :=
  max 1 settings.taskConcurrency

/-- Runs a query that has been read, as long as there is time. -/
def run {σ : Type} (source : RecordSource σ) (now : Moment) (project : Value) (q : Query)
    (settings : Settings := {}) : Searching σ ResultSet :=
  ExceptT.mk fun s =>
    (execute (source.waitedFor (inTime source settings s)) (permits settings) now project q).run s

/-- Reads a query without running it. -/
def validate (kindName : String) (text : Option String) : Except SearchError Query :=
  (Query.readNamed kindName text).mapError .badQuery

/-- Reads and runs a query. -/
def search {σ : Type} (source : RecordSource σ) (now : Moment) (project : Value)
    (kindName : String) (text : Option String) (settings : Settings := {}) :
    Searching σ ResultSet :=
  match validate kindName text with
  | .ok q => run source now project q settings
  | .error e => throw e

/-- The integer that a text of digit signs writes, with blanks at its ends.  Ornamental digits write
none, and neither do digits between separator controls. -/
def integerOf (s : String) : Except SearchError Value :=
  let digits := Text.trimChars s.toList
  if digits.all Text.isDecimal && !s.toList.any Text.isSeparatorControl then
    .ok (.nat (Text.decimalValue digits))
  else .error (.badInteger s)

/-- The identifier of the project with a given name. -/
def projectId (name : Value) (project : Value) : Except SearchError Value :=
  match project with
  | .object _ => .ok ((project.get? "id").getD name)
  | v => .error (.noFields v)

/-- Looks a project up by its name. -/
def lookUp {σ : Type} (find : String → Fetch σ Value) (name : Value) : Searching σ Value := do
  let failed (e : SourceFailure) : SearchError :=
    let reason :=
      match e with
      | .refused message | .broken message => message
      | .stalled => ""
    .failed (failurePrefix ++ "unknown project '" ++ name.display ++ "': " ++ reason)
  let project ← ExceptT.mk fun s =>
    let (result, s) := (find name.display).run s
    (result.mapError failed, s)
  ExceptT.mk fun s => (projectId name project, s)

/-- The identifier of a project that is given by a number or by its name.  Numbers stand for
themselves, and so do names if the source cannot look for them. -/
def resolveProject {σ : Type} (source : RecordSource σ) (identifier : Value) :
    Searching σ Value :=
  match identifier with
  | .bool b => return .number (Value.boolNumber b)
  | .number (.int n) => return .int n
  | _ =>
    if Text.isDigitSigns (Text.trimChars identifier.display.toList) then
      ExceptT.mk fun s => (integerOf identifier.display, s)
    else
      match source.projectNamed? with
      | some find => lookUp find identifier
      | none => return identifier

/-- Reads a query, finds the project that it is about, and runs it.  Without an identifier it is
about no project in particular. -/
def searchProject {σ : Type} (source : RecordSource σ) (now : Moment)
    (identifier : Option Value) (kindName : String) (text : String) (settings : Settings := {}) :
    Searching σ ResultSet :=
  match validate kindName (some text) with
  | .error e => throw e
  | .ok q => do
    let project ←
      match identifier with
      | some identifier => resolveProject source identifier
      | none => pure .null
    run source now project q settings

end Search

end IssueQuery
