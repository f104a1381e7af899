import IssueQuery.Json.Writer
import IssueQuery.Service.Payload

/-!
# Fronts

The service leaves it to others how the payloads of requests are checked and which answers can be
sent.  All that it relies on is that a payload of the right form is taken as it is, and that a body
with a query for a search holds the same query for a check.
-/

namespace IssueQuery.Service

/-- How payloads are checked, and which bodies can be sent as answers. -/
structure Front where
  readQuery : Value → Option QueryPayload
  readSearch : Value → Option SearchPayload
  /-- The topic that parameters name. -/
  readTopic : Value → Option String
  sends : Value → Bool
  readSearch_object : ∀ n kind query, Text.isEncodable query →
    readSearch (.object [("project", .int n), ("query", .string query),
      ("type", .string (EntityKind.plural kind))]) = some ⟨⟨kind, query⟩, .int n⟩
  readQuery_of_readSearch : ∀ body p, readSearch body = some p →
    readQuery body = some p.toQueryPayload

/-- The front that the service has if it is given no other one. -/
def Front.usual : Front where
  readQuery := QueryPayload.ofBody?
  readSearch := SearchPayload.ofBody?
  readTopic parameters := parameter? (Http.Form.usual.sent parameters.fields) "topic"
  sends := Json.isSendable
  readSearch_object n kind query h := by
    have hkind : kindOf? (.object [("project", .int n), ("query", .string query),
        ("type", .string kind.plural)]) = some kind := by
      cases kind <;> rfl
    have hquery : QueryPayload.ofBody? (.object [("project", .int n), ("query", .string query),
        ("type", .string kind.plural)]) = some ⟨kind, query⟩ := by
      rw [QueryPayload.ofBody?, hkind]
      exact if_pos h
    rw [SearchPayload.ofBody?, hquery]
    rfl
  readQuery_of_readSearch body p h := by
    obtain ⟨query, hquery, h⟩ := Option.bind_eq_some_iff.mp h
    obtain ⟨project, -, h⟩ := Option.bind_eq_some_iff.mp h
    cases h
    exact hquery

end IssueQuery.Service
