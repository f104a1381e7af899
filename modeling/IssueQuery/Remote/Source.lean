import IssueQuery.Remote.Client
import IssueQuery.Source.Basic

/-!
# Remote records

A remote tracker as a source of records, and clients that keep a list of what they send.
-/

namespace IssueQuery.Remote

open Http

/-- A failure of a remote call as that of a source. -/
def Failure.toSource : Failure → SourceFailure
  | .endless => .stalled
  | e => .broken e.message

/-- A request and what it was answered with. -/
structure Exchange where
  request : Request
  delivery : Delivery

namespace Client

variable {σ α : Type}

/-- A remote call as the call of a source. -/
def sourced (call : Call σ α) : Fetch (Session σ) α :=
  ExceptT.mk fun s =>
    let (result, s) := call.run s
    (result.mapError Failure.toSource, s)

/-- The source whose records a tracker has. -/
def source (c : Client σ) : RecordSource (Session σ) where
  time s := s.now
  issues project := sourced (Record.ofValues <$> c.issues project)
  userStories project := sourced (Record.ofValues <$> c.userStories project)
  tasks story := sourced (Record.ofValues <$> c.tasks story)
  projectNamed? := some fun name => sourced (c.projectNamed (.string name))

/-- The client that keeps a list of its exchanges, the latest at the end. -/
def traced (c : Client σ) : Client (σ × List Exchange) where
  settings := c.settings
  deliver request := fun (s, exchanges) =>
    let (delivery, s) := (c.deliver request).run s
    (delivery, s, exchanges ++ [⟨request, delivery⟩])
  patience := c.patience
  delay request state := c.delay request state.1
  form := c.form

/-- The client on a network that is down: nothing it sends arrives. -/
def offline (settings : Settings) : Client Unit where
  settings
  deliver _ := pure (.error "offline")
  patience := 1

end Client

end IssueQuery.Remote
