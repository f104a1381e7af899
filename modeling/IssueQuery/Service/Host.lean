import IssueQuery.Remote.Source
import IssueQuery.Service.Basic

/-!
# Hosts

A service while it is up and when it is shut down.  A source that was handed to the service belongs
to somebody else; a client that the service made for itself is closed with it.
-/

namespace IssueQuery

/-- A service that is up, or has been. -/
structure Host (σ : Type) where
  service : Service σ
  /-- Whether the source is a client that the service made for itself. -/
  ownsClient : Bool
  /-- Whether the client is closed. -/
  isClosed : Bool := false

namespace Host

/-- A service on a source that belongs to somebody else. -/
def ofService {σ : Type} (service : Service σ) : Host σ where
  service
  ownsClient := false

/-- A service on a client of its own. -/
def ofClient {σ : Type} (client : Remote.Client σ) (now : Moment) :
    Host (Remote.Session σ) where
  service := { source := client.source, settings := client.settings, now }
  ownsClient := true

/-- A service that has been shut down. -/
def shutDown {σ : Type} (h : Host σ) : Host σ :=
  { h with isClosed := h.isClosed || h.ownsClient }

end Host

end IssueQuery
