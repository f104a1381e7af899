import IssueQuery.Query.SyntaxError
import IssueQuery.Record.Basic

/-!
# Sources of records

A source lists the records of a project, and may know projects by their names.  Its calls may fail,
and they may change the state that it works on.
-/

namespace IssueQuery

/-- Why a call of a source gives nothing. -/
inductive SourceFailure where
  /-- The source reports that the query cannot be run. -/
  | refused (message : String)
  /-- Anything else went wrong. -/
  | broken (message : String)
  /-- The source does not answer. -/
  | stalled
  deriving DecidableEq

/-- A source that finds fault with a query of its own is broken: what it reports is about none that
it was asked for. -/
def SourceFailure.ofFault (e : SyntaxError) : SourceFailure :=
  .broken e.message

/-- A call of a source that works on a state. -/
abbrev Fetch (σ α : Type) := ExceptT SourceFailure (StateM σ) α

/-- What records are taken from. -/
structure RecordSource (σ : Type) where
  /-- The seconds that have passed when a state is reached. -/
  time : σ → Rat := fun _ => 0
  /-- The issues of a project. -/
  issues : Value → Fetch σ (List Record)
  /-- The user stories of a project. -/
  userStories : Value → Fetch σ (List Record)
  /-- The tasks of a user story. -/
  tasks : Value → Fetch σ (List Record)
  /-- The project with a given name, if the source can look for names. -/
  projectNamed? : Option (String → Fetch σ Value)

/-- A call of a source. -/
inductive SourceCall where
  | issues (project : Value)
  | userStories (project : Value)
  | tasks (story : Value)
  | projectNamed (name : String)

namespace RecordSource

/-- A call that is put on the list of calls when it returns. -/
def record {σ α : Type} (call : SourceCall) (fetch : Fetch σ α) :
    Fetch (σ × List SourceCall) α :=
  ExceptT.mk fun (s, calls) =>
    let (result, s) := fetch.run s
    (result, s, calls ++ [call])

/-- The source that keeps a list of its calls, the latest at the end. -/
def traced {σ : Type} (source : RecordSource σ) : RecordSource (σ × List SourceCall) where
  time state := source.time state.1
  issues project := record (.issues project) (source.issues project)
  userStories project := record (.userStories project) (source.userStories project)
  tasks story := record (.tasks story) (source.tasks story)
  projectNamed? := source.projectNamed?.map fun find name =>
    record (.projectNamed name) (find name)

/-- A call that gives nothing if it comes to its end in a state that is too late. -/
def fetchWhile {σ α : Type} (inTime : σ → Bool) (fetch : Fetch σ α) : Fetch σ α :=
  ExceptT.mk fun s =>
    let (result, s) := fetch.run s
    (if inTime s then result else .error .stalled, s)

/-- The source that is only waited for as long as there is time. -/
def waitedFor {σ : Type} (inTime : σ → Bool) (source : RecordSource σ) : RecordSource σ where
  time := source.time
  issues project := fetchWhile inTime (source.issues project)
  userStories project := fetchWhile inTime (source.userStories project)
  tasks story := fetchWhile inTime (source.tasks story)
  projectNamed? := source.projectNamed?

end RecordSource

/-- Calls that fail by plan. -/
structure Outage where
  /-- How the issues and the user stories of a project fail to be listed. -/
  listing : Option SourceFailure := none
  /-- The user stories whose tasks cannot be listed. -/
  stories : List Value := []

namespace Outage

/-- The result of a call that may fail by plan. -/
def orElse {σ α : Type} (failure : Option SourceFailure) (fetch : Fetch σ α) : Fetch σ α :=
  match failure with
  | some e => throw e
  | none => fetch

/-- The source whose calls fail as planned. -/
def applyTo {σ : Type} (o : Outage) (source : RecordSource σ) : RecordSource σ where
  time := source.time
  issues project := orElse o.listing (source.issues project)
  userStories project := orElse o.listing (source.userStories project)
  tasks story :=
    orElse (if o.stories.any story.same then some (.broken "") else none) (source.tasks story)
  projectNamed? := source.projectNamed?

end Outage

end IssueQuery
