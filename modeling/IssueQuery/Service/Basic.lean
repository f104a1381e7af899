import IssueQuery.Help
import IssueQuery.Query.Statistics
import IssueQuery.Search
import IssueQuery.Service.Front
import IssueQuery.Settings.Basic

/-!
# The service

Answers requests that come in over HTTP: to run a query, to check one, to be given help, and to
tell whether the service is up.  A faulty query is answered before a source is asked for anything.
-/

namespace IssueQuery

/-- An answer to a request. -/
structure Reply where
  status : Nat
  /-- The body, if its form is settled. -/
  body : Option Value

namespace Reply

/-- An answer that grants a request. -/
def ok (body : Value) : Reply :=
  ⟨200, some body⟩

/-- An answer that says why a request is not granted. -/
def detail (status : Nat) (v : Value) : Reply :=
  ⟨status, some (.object [("detail", v)])⟩

/-- The answer to a payload that does not fit. -/
def unfit : Reply :=
  ⟨422, none⟩

/-- The answer if something went wrong that is not the caller's fault. -/
def broken : Reply :=
  ⟨500, none⟩

end Reply

/-- A source that is offered to others. -/
structure Service (σ : Type) where
  source : RecordSource σ
  settings : Settings
  now : Moment
  front : Service.Front := .usual

namespace Service

/-- An answer that grants a request, as far as its body can be sent. -/
def Front.send (front : Front) (body : Value) : Reply :=
  if front.sends body then .ok body else .broken

/-- What a request can ask for. -/
inductive Endpoint where
  | search
  | validate
  | help
  | health
  deriving DecidableEq

/-- The path of an endpoint. -/
def Endpoint.path : Endpoint → String
  | .search => "/api/search"
  | .validate => "/api/validate"
  | .help => "/api/help"
  | .health => "/health"

/-- The only method that an endpoint allows. -/
def Endpoint.method : Endpoint → Http.Method
  | .search | .validate => .post
  | .help | .health => .get

/-- The endpoint at a path. -/
def Endpoint.ofPath? (path : String) : Option Endpoint :=
  [search, validate, help, health].find? (·.path = path)

/-- How a faulty query is described. -/
def syntaxDetail (e : SyntaxError) : Value :=
  .object [
    ("error_code", .string SyntaxError.code),
    ("message", .string e.detail),
    ("fragment", Value.ofString? e.fragment),
    ("position", Query.optional Value.nat e.position)]

/-- The answer to a request whose query cannot be run. -/
def errorReply : SearchError → Reply
  | .badQuery e => .detail 400 (syntaxDetail e)
  | .failed message => .detail 502 (.string message)
  | _ => .broken

/-- The value that describes a result. -/
def resultValue (p : QueryPayload) (r : ResultSet) : Value :=
  .object [
    ("query", .string p.query),
    ("type", .string p.kind.plural),
    ("results", .list r.entries.toValues),
    ("grouped", .bool r.isGrouped),
    ("total", .nat r.total),
    ("total_fetched", .nat r.fetched),
    ("total_matched", .nat r.matched),
    ("executed_at", .string r.executedAt.isoText)]

/-- The answer to a request that a query gave a result for; each entry has to have fields. -/
def resultReply (front : Front) (p : QueryPayload) (r : ResultSet) : Reply :=
  let hasFields : Value → Bool
    | .object _ => true
    | _ => false
  if r.entries.toValues.all hasFields then front.send (resultValue p r)
  else .broken

variable {σ : Type}

/-- The statistics of a query. -/
def statistics (s : Service σ) (q : Query) : Statistics :=
  .ofQuery q (some (.double s.settings.maxComplexity))

/-- Runs the query in a body. -/
def search (s : Service σ) (p : SearchPayload) : StateM σ Reply := do
  let found ←
    (Search.searchProject s.source s.now (some p.project) p.kind.plural p.query
      s.settings).run
  match found with
  | .ok r => return resultReply s.front p.toQueryPayload r
  | .error e => return errorReply e

/-- The value that describes a query. -/
def queryValue (s : Service σ) (kind : EntityKind) (q : Query) : Value :=
  .object [
    ("valid", .bool true),
    ("type", .string kind.plural),
    ("logic", .string q.logic.keyword),
    ("filters", .list (q.filters.map Query.filterValue)),
    ("order_by", Query.optional Query.orderValue q.trailer.order),
    ("limit", Query.optional Value.nat q.trailer.limit),
    ("group_by", Value.ofString? q.trailer.group),
    ("stats", (s.statistics q).toValue)]

/-- Checks the query in a body. -/
def validate (s : Service σ) (p : QueryPayload) : Reply :=
  match Search.validate p.kind.plural (some p.query) with
  | .ok q => s.front.send (s.queryValue p.kind q)
  | .error e => errorReply e

/-- Gives help on a topic. -/
def help (topic : Option String) : Reply :=
  match Help.text topic with
  | .ok text => .ok (.object [("topic", Value.ofString? topic), ("content", .string text)])
  | .error message => .detail 400 (.string message)

/-- The answer of an endpoint to a payload, which is the body of a request or its parameters. -/
def answer (s : Service σ) (e : Endpoint) (payload : Value) : StateM σ Reply :=
  match e with
  | .search =>
    match s.front.readSearch payload with
    | some p => s.search p
    | none => pure .unfit
  | .validate =>
    match s.front.readQuery payload with
    | some p => pure (s.validate p)
    | none => pure .unfit
  | .help => pure (help (s.front.readTopic payload))
  | .health => pure (.ok (.object [("status", .string "healthy")]))

/-- The answer to a request. -/
def reply (s : Service σ) (method : Http.Method) (path : String) (payload : Value) :
    StateM σ Reply :=
  match Endpoint.ofPath? path with
  | none => pure (.detail 404 (.string "Not Found"))
  | some e =>
    if e.method = method then s.answer e payload
    else pure (.detail 405 (.string "Method Not Allowed"))

end Service

end IssueQuery
