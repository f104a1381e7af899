import IssueQuery.Value.Basic

/-!
# Settings

What can be set, under which names, and what holds if nothing is set.
-/

namespace IssueQuery

/-- A thing that can be set. -/
inductive Setting where
  /-- The address of the remote tracker. -/
  | apiUrl
  | username
  | password
  /-- A token that stands for a login. -/
  | authToken
  /-- The number of records on a page of a listing. -/
  | pageSize
  /-- The seconds that a request may take. -/
  | requestTimeout
  /-- The seconds that a query may take. -/
  | queryTimeout
  /-- The complexity above which a query is called complex. -/
  | maxComplexity
  /-- The number of listings of tasks that may be under way at the same time. -/
  | taskConcurrency
  | logLevel
  deriving DecidableEq

namespace Setting

/-- All settings. -/
def all : List Setting := [
  apiUrl, username, password, authToken, pageSize, requestTimeout, queryTimeout, maxComplexity,
  taskConcurrency, logLevel]

/-- The name of a setting in a file. -/
def name : Setting → String
  | .apiUrl => "api_url"
  | .username => "username"
  | .password => "password"
  | .authToken => "auth_token"
  | .pageSize => "page_size"
  | .requestTimeout => "request_timeout"
  | .queryTimeout => "query_timeout"
  | .maxComplexity => "max_complexity"
  | .taskConcurrency => "task_fetch_concurrency"
  | .logLevel => "log_level"

/-- The name of a setting in the environment. -/
def environmentName : Setting → String
  | .apiUrl => "TAIGA_API_URL"
  | .username => "TAIGA_USERNAME"
  | .password => "TAIGA_PASSWORD"
  | .authToken => "TAIGA_AUTH_TOKEN"
  | .pageSize => "TAIGA_PAGE_SIZE"
  | .requestTimeout => "TAIGA_REQUEST_TIMEOUT"
  | .queryTimeout => "TAIGA_QUERY_TIMEOUT"
  | .maxComplexity => "TAIGA_MAX_COMPLEXITY"
  | .taskConcurrency => "TAIGA_TASK_FETCH_CONCURRENCY"
  | .logLevel => "TAIGA_LOG_LEVEL"

end Setting

/-- A value for each setting. -/
structure Settings where
  apiUrl : String := "https://api.taiga.io/api/v1"
  username : Option String := none
  password : Option String := none
  authToken : Option String := none
  pageSize : Nat := 100
  requestTimeout : Double := .finite 30
  queryTimeout : Double := .finite 30
  maxComplexity : Double := .finite 10
  taskConcurrency : Nat := 5
  logLevel : String := "INFO"
  deriving DecidableEq

namespace Settings

/-- The settings if nothing is set. -/
def initial : Settings := {}

/-- The settings as a value. -/
def toValue (s : Settings) : Value :=
  .object [
    (Setting.apiUrl.name, .string s.apiUrl),
    (Setting.username.name, .ofString? s.username),
    (Setting.password.name, .ofString? s.password),
    (Setting.authToken.name, .ofString? s.authToken),
    (Setting.pageSize.name, .nat s.pageSize),
    (Setting.requestTimeout.name, .double s.requestTimeout),
    (Setting.queryTimeout.name, .double s.queryTimeout),
    (Setting.maxComplexity.name, .double s.maxComplexity),
    (Setting.taskConcurrency.name, .nat s.taskConcurrency),
    (Setting.logLevel.name, .string s.logLevel)]

end Settings

end IssueQuery
