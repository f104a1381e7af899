import IssueQuery.Http.Form
import IssueQuery.Remote.Failure
import IssueQuery.Settings.Basic

/-!
# Clients of a remote tracker

A client logs in when it has to and sends its requests in the name of its login.  A login that a
tracker rejects is given up, and the request is sent once more with a new one.
-/

namespace IssueQuery.Remote

open Http

/-- In whose name requests are sent. -/
structure Login where
  token : Value
  /-- The time from which on the token is void, if there is one. -/
  expiry : Option Rat

/-- Whether a login is still good at a time. -/
def Login.isGood (l : Login) (now : Rat) : Bool :=
  match l.expiry with
  | some expiry => now < expiry
  | none => true

/-- The state of a client: its login, the time in seconds, and the state of the network. -/
structure Session (σ : Type) where
  login : Option Login
  now : Rat
  network : σ

/-- A number of seconds that pass. -/
abbrev Duration := { seconds : Rat // 0 ≤ seconds }

/-- No time at all. -/
def Duration.zero : Duration :=
  ⟨0, Rat.le_refl⟩

/-- A client with its settings on a network with a state. -/
structure Client (σ : Type) where
  settings : Settings
  /-- How the network answers a request. -/
  deliver : Request → StateM σ Delivery
  /-- The number of pages above which a listing counts as endless. -/
  patience : Nat
  /-- The seconds until a request is answered. -/
  delay : Request → σ → Duration := fun _ _ => .zero
  /-- How requests are written. -/
  form : Form := .usual

/-- A call of a client. -/
abbrev Call (σ α : Type) := ExceptT Failure (StateM (Session σ)) α

namespace Session

/-- The session of a client that has not sent anything yet. -/
def start {σ : Type} (settings : Settings) (now : Rat) (network : σ) : Session σ where
  login :=
    (settings.authToken.filter (!·.isEmpty)).map fun token => ⟨.string token, none⟩
  now
  network

/-- Whether there is a login that is still good. -/
def isAuthenticated {σ : Type} (s : Session σ) : Bool :=
  match s.login with
  | some l => l.isGood s.now
  | none => false

/-- The session some seconds later. -/
def advance {σ : Type} (s : Session σ) (seconds : Rat) : Session σ :=
  { s with now := s.now + seconds }

end Session

namespace Client

variable {σ : Type}

/-- The seconds for which a login is good. -/
def loginLifetime : Rat := 86400

/-- What arrives of a request that is sent in a session. -/
def answer (c : Client σ) (request : Request) (s : Session σ) : Delivery :=
  ((c.deliver request).run s.network).1

/-- The session when a request has been answered. -/
def after (c : Client σ) (request : Request) (s : Session σ) : Session σ :=
  { s with
    now := s.now + (c.delay request s.network).val
    network := ((c.deliver request).run s.network).2 }

/-- Sends a request and waits for its answer. -/
def send (c : Client σ) (request : Request) : Call σ Delivery :=
  ExceptT.mk fun s => (.ok (c.answer request s), c.after request s)

/-- The address of a path of the tracker. -/
def address (c : Client σ) (path : String) : Address :=
  c.form.below c.settings.apiUrl path

/-- The name and the password to log in with. -/
def credentials? (c : Client σ) : Option (String × String) := do
  let username ← c.settings.username.filter (!·.isEmpty)
  let password ← c.settings.password.filter (!·.isEmpty)
  return (username, password)

/-- The request that asks for a login. -/
def loginRequest (c : Client σ) (username password : String) : Request where
  method := .post
  address := c.address "/auth"
  parameters := []
  authorization := none
  body := some (.object [
    ("type", .string "normal"),
    ("username", .string username),
    ("password", .string password)])

/-- The token in the response to a request for a login. -/
def tokenOf (r : Response) : Except Failure Value :=
  if r.isRefusal then .error (.loginRefused r.status r.reason?)
  else
    match r.body with
    | .error e => .error (.unreadable e)
    | .ok (.object fields) =>
      let token := (Value.object fields).get "auth_token"
      if token.isTruthy then .ok token else .error .missingToken
    | .ok v => .error (.noFields v)

/-- Logs in and gives the token of the new login. -/
def authenticate (c : Client σ) : Call σ Value := do
  match c.credentials? with
  | none => throw .missingCredentials
  | some (username, password) =>
    match ← c.send (c.loginRequest username password) with
    | .error reason => throw (.loginUnreachable reason)
    | .ok r =>
      let token ← ExceptT.mk (pure (tokenOf r))
      modify fun s => { s with login := some ⟨token, some (s.now + loginLifetime)⟩ }
      return token

/-- The token of a good login, where a new one is made if there is none. -/
def ensureToken (c : Client σ) : Call σ Value := do
  let s ← get
  match s.login with
  | some l => if l.isGood s.now then return l.token else c.authenticate
  | none => c.authenticate

/-- The header that sends a request in the name of a token, if it can hold the token. -/
def bearer (c : Client σ) (token : Value) : Except Failure String :=
  let header := "Bearer " ++ token.display
  if c.form.holds header then .ok header else .error (.unsendable header)

/-- Asks for the resource at a path in the name of a good login. -/
def ask (c : Client σ) (path : String) (parameters : List (String × Value)) :
    Call σ Response := do
  let token ← c.ensureToken
  let authorization ← ExceptT.mk (pure (c.bearer token))
  let request : Request := {
    method := .get
    address := c.address path
    parameters := c.form.sent parameters
    authorization := some authorization
    body := none }
  match ← c.send request with
  | .error reason => throw (.unreachable path reason)
  | .ok r => return r

/-- A response that grants what is at a path. -/
def granted (path : String) (r : Response) : Except Failure Response :=
  if r.isRefusal then .error (.refused path r.status r.reason?) else .ok r

/-- Asks for the resource at a path, and if the login is rejected once more with a new one. -/
def fetch (c : Client σ) (path : String) (parameters : List (String × Value)) :
    Call σ Response := do
  let r ← c.ask path parameters
  if r.status = 401 then
    modify fun s => { s with login := none }
    let r ← c.ask path parameters
    ExceptT.mk (pure (granted path r))
  else ExceptT.mk (pure (granted path r))

/-- The value that a response holds. -/
def content (r : Response) : Except Failure Value :=
  r.body.mapError .unreadable

/-- The elements of the value on a page; a value that says nothing has none, and a text is made of
its characters. -/
def elements (v : Value) : Except Failure (List Value) :=
  if !v.isTruthy then .ok []
  else
    match v with
    | .list items => .ok items
    | .string s => .ok (s.toList.map fun c => .string (String.singleton c))
    | .object fields => .ok (fields.map fun (name, _) => .string name)
    | v => .error (.noElements v)

/-- The elements of a page. -/
def pageElements (r : Response) : Except Failure (List Value) := do
  elements (← content r)

/-- The number of records that a response tells.  Digit signs that write no integer are a failure,
and anything else tells nothing. -/
def count? (r : Response) : Except Failure (Option Nat) :=
  match r.header? "x-pagination-count" with
  | some total =>
    if !Text.isDigitSigns total.toList then .ok none
    else if total.toList.all Text.isDecimal then .ok (some (Text.decimalValue total.toList))
    else .error (.badCount total)
  | none => .ok none

/-- Whether a page with some elements is the last one, behind which `read` elements have been read:
it has fewer elements than a page can hold, or the number that the tracker tells is reached. -/
def isLast (c : Client σ) (r : Response) (items : List Value) (read : Nat) :
    Except Failure Bool := do
  if items.isEmpty || items.length < c.settings.pageSize then return true
  match ← count? r with
  | some total => return total ≤ read
  | none => return false

/-- The parameters of a page of a listing. -/
def pageParameters (c : Client σ) (parameters : List (String × Value)) (page : Nat) :
    List (String × Value) :=
  Value.insertField "page_size" (.nat c.settings.pageSize)
    (Value.insertField "page" (.nat page) parameters)

/-- Fetches the pages of a listing from `page` on, behind the elements that have been read. -/
def pagesFrom (c : Client σ) (path : String) (parameters : List (String × Value)) :
    Nat → Nat → List Value → Call σ (List Value)
  | 0, _, _ => throw .endless
  | patience + 1, page, read => do
    let r ← c.fetch path (c.pageParameters parameters page)
    let items ← ExceptT.mk (pure (pageElements r))
    let read := read ++ items
    if ← ExceptT.mk (pure (c.isLast r items read.length)) then return read
    else c.pagesFrom path parameters patience (page + 1) read

/-- All elements of a listing. -/
def fetchAllPages (c : Client σ) (path : String) (parameters : List (String × Value)) :
    Call σ (List Value) :=
  c.pagesFrom path parameters c.patience 1 []

/-- The issues of a project. -/
def issues (c : Client σ) (project : Value) : Call σ (List Value) :=
  c.fetchAllPages "/issues" [("project", project)]

/-- The user stories of a project. -/
def userStories (c : Client σ) (project : Value) : Call σ (List Value) :=
  c.fetchAllPages "/userstories" [("project", project)]

/-- The tasks of a user story. -/
def tasks (c : Client σ) (story : Value) : Call σ (List Value) :=
  c.fetchAllPages "/tasks" [("user_story", story)]

/-- The project with a given name. -/
def projectNamed (c : Client σ) (name : Value) : Call σ Value := do
  let r ← c.fetch "/projects/by_slug" [("slug", name)]
  ExceptT.mk (pure (content r))

end Client

end IssueQuery.Remote
