import IssueQuery.Json.Reader
import IssueQuery.Http.Address
import IssueQuery.Value.Text

/-!
# Messages

Requests for the resources of a host and the responses to them.
-/

namespace IssueQuery.Http

/-- What a request asks for. -/
inductive Method where
  /-- To be given a resource. -/
  | get
  /-- To take in a body. -/
  | post
  deriving DecidableEq

/-- A request. -/
structure Request where
  method : Method
  address : Address
  /-- Names and texts behind the path, in the order in which they are sent. -/
  parameters : List (String × String)
  /-- In whose name the request is sent. -/
  authorization : Option String
  body : Option Value

/-- The texts of a parameter: one for each element of a list, and one for any other value. -/
def parameterTexts : Value → List String
  | .list items => items.map text
  | v => [text v]
where
  /-- The text of one value. -/
  text : Value → String
    | .null => ""
    | .bool true => "true"
    | .bool false => "false"
    | v => v.display

/-- A response. -/
structure Response where
  status : Nat
  /-- What the body says, or why it cannot be read. -/
  body : Except Json.ReadError Value
  headers : List (String × String)

/-- A response, or the reason why none arrives. -/
abbrev Delivery := Except String Response

namespace Response

/-- Reads the text of a body, which may begin with a byte order mark. -/
def readBody (s : String) : Except Json.ReadError Value :=
  match s.toList with
  | '\uFEFF' :: rest => Json.read (String.ofList rest)
  | _ => Json.read s

/-- The text of a header, whose name may be written in any case. -/
def header? (r : Response) (name : String) : Option String :=
  let texts := (r.headers.filter (·.1.toLower = name)).map (·.2)
  if texts.isEmpty then none else some (", ".intercalate texts)

/-- Whether the request is not granted. -/
def isRefusal (r : Response) : Bool :=
  400 ≤ r.status

/-- The message that the response gives for a refusal. -/
def reason? (r : Response) : Option String :=
  match r.body with
  | .ok v =>
    let message := v.get "_error_message"
    if message.isTruthy then some message.display else none
  | .error _ => none

end Response

end IssueQuery.Http
