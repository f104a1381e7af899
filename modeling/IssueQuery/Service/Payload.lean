import IssueQuery.Http.Form
import IssueQuery.Query.Field
import IssueQuery.Text.Surrogate

/-!
# Payloads

What the requests to the service ask for, as their bodies and parameters say it.
-/

namespace IssueQuery.Service

/-- The kind of records that a body asks for; issues, if it does not say. -/
def kindOf? (body : Value) : Option EntityKind :=
  match body.get? "type" with
  | none => some .issue
  | some (.string s) => EntityKind.ofPlural? s
  | some _ => none

/-- A query in the body of a request. -/
structure QueryPayload where
  kind : EntityKind
  query : String
  deriving DecidableEq

/-- The query that a body holds. -/
def QueryPayload.ofBody? (body : Value) : Option QueryPayload :=
  match kindOf? body, body.get "query" with
  | some kind, .string query => if Text.isEncodable query then some ⟨kind, query⟩ else none
  | _, _ => none

/-- The identifier of a project: an integer or a text.  Truth values and doubles without a
fraction count as integers. -/
def identifierOf? : Value → Option Value
  | .string s => if Text.isEncodable s then some (.string s) else none
  | .number (.int n) => some (.int n)
  | .number (.double x) => x.toInt?.map .int
  | .bool b => some (.number (Value.boolNumber b))
  | _ => none

/-- A query and the project that it is about. -/
structure SearchPayload extends QueryPayload where
  project : Value

/-- The query and the project that a body holds. -/
def SearchPayload.ofBody? (body : Value) : Option SearchPayload := do
  let query ← QueryPayload.ofBody? body
  let project ← identifierOf? (body.get "project")
  return { query with project }

/-- The text of a parameter that is asked for by name; of several texts the last one counts. -/
def parameter? (parameters : List (String × String)) (name : String) : Option String :=
  ((parameters.filter (·.1 = name)).map (·.2)).getLast?

end IssueQuery.Service
