import IssueQuery.Json.Reader
import IssueQuery.Text.Quoted
import IssueQuery.Value.Text

/-!
# Failures of remote calls

What can go wrong between a program and a remote tracker.
-/

namespace IssueQuery.Remote

/-- Why a call of a remote tracker gives nothing. -/
inductive Failure where
  /-- There is nobody to log in as. -/
  | missingCredentials
  /-- No response to a login arrives. -/
  | loginUnreachable (reason : String)
  /-- A login is refused. -/
  | loginRefused (status : Nat) (reason : Option String)
  /-- The response to a login gives no token. -/
  | missingToken
  /-- No response to a request arrives. -/
  | unreachable (path reason : String)
  /-- A request is refused. -/
  | refused (path : String) (status : Nat) (reason : Option String)
  /-- A body cannot be read. -/
  | unreadable (e : Json.ReadError)
  /-- A body has no fields where some are needed. -/
  | noFields (v : Value)
  /-- A body has no elements where a list is needed. -/
  | noElements (v : Value)
  /-- A text cannot be a part of a header. -/
  | unsendable (header : String)
  /-- The number of records is told by signs that look like digits but write no number. -/
  | badCount (text : String)
  /-- A listing does not end. -/
  | endless

namespace Failure

/-- The status of a response and the reason that it gives. -/
def statusText (status : Nat) (reason : Option String) : String :=
  match reason with
  | some reason => "HTTP " ++ toString status ++ " - " ++ reason
  | none => "HTTP " ++ toString status

/-- Where the first run of characters beyond ASCII lies in a header, and how it is reported. -/
def unsendableMessage (header : List Char) : String :=
  let beyond (c : Char) : Bool := 128 ≤ c.toNat
  let start := (header.takeWhile (!beyond ·)).length
  let run := (header.dropWhile (!beyond ·)).takeWhile beyond
  let what :=
    match run with
    | [c] =>
      let escape :=
        if c.toNat < 0x100 then 'x' :: Text.Quoted.hex 2 c.toNat
        else if c.toNat < 0x10000 then 'u' :: Text.Quoted.hex 4 c.toNat
        else 'U' :: Text.Quoted.hex 8 c.toNat
      "character '\\" ++ String.ofList escape ++ "' in position " ++ toString start
    | _ =>
      "characters in position " ++ toString start ++ "-" ++ toString (start + run.length - 1)
  "'ascii' codec can't encode " ++ what ++ ": ordinal not in range(128)"

/-- The message about a failure. -/
def message : Failure → String
  | .missingCredentials => "Taiga username and password are required for authentication"
  | .loginUnreachable reason => "Authentication request failed: " ++ reason
  | .loginRefused status reason => "Authentication failed: " ++ statusText status reason
  | .missingToken => "Authentication response did not contain an auth token"
  | .unreachable path reason => "Request to " ++ path ++ " failed: " ++ reason
  | .refused path status reason => "Taiga API error on " ++ path ++ ": " ++ statusText status reason
  | .unreadable e => e.message
  | .noFields v => v.noFieldsMessage
  | .noElements v => "object of type '" ++ v.typeName ++ "' has no len()"
  | .unsendable header => unsendableMessage header.toList
  | .badCount text => Text.noIntegerMessage text
  | .endless => ""

/-- The status of the response that a failure is about. -/
def status? : Failure → Option Nat
  | .loginRefused status _ => some status
  | .refused _ status _ => some status
  | _ => none

end Failure

end IssueQuery.Remote
