import IssueQuery.Match.Clause
import IssueQuery.Record.Grouping
import IssueQuery.Record.Sorting

/-!
# Result sets

What a query gives on a list of records: those that its filters keep, sorted, grouped and cut off
at the limit, in this sequence.
-/

namespace IssueQuery

/-- The entries of a result set. -/
inductive Entries where
  | records (items : List Record)
  | groups (items : List Group)

namespace Entries

def size : Entries → Nat
  | records items => items.length
  | groups items => items.length

/-- The first `n` entries. -/
def take (n : Nat) : Entries → Entries
  | records items => records (items.take n)
  | groups items => groups (items.take n)

/-- The entries as values. -/
def toValues : Entries → List Value
  | records items => items.map (·.content)
  | groups items => items.map Group.toValue

end Entries

/-- The result of a query. -/
structure ResultSet where
  query : Query
  entries : Entries
  /-- The number of entries. -/
  total : Nat
  /-- The moment at which the query was run. -/
  executedAt : Moment
  /-- The number of records that were looked at. -/
  fetched : Nat
  /-- The number of records that the filters keep. -/
  matched : Nat

namespace ResultSet

/-- Whether the entries are groups. -/
def isGrouped (r : ResultSet) : Bool :=
  r.query.trailer.group.isSome

/-- Records in the order that a query asks for. -/
def arrange (q : Query) (records : List Record) : List Record :=
  match q.trailer.order with
  | some order => order.apply records
  | none => records

/-- Records as the entries that a query asks for, before the limit. -/
def bundle (q : Query) (records : List Record) : Entries :=
  match q.trailer.group with
  | some field => .groups (Group.ofRecords field records)
  | none => .records records

/-- The entries that the limit of a query leaves. -/
def cut (q : Query) (entries : Entries) : Entries :=
  match q.trailer.limit with
  | some n => entries.take n
  | none => entries

/-- The records that the filters of a query keep. -/
def filter (q : Query) (now : Moment) (records : List Record) :
    Except TimeError (List Record) :=
  q.logic.keep (·.verdict now) q.filters records

/-- The result of a query on a list of records. -/
def ofRecords (q : Query) (now : Moment) (records : List Record) : Except TimeError ResultSet := do
  let kept ← filter q now records
  let entries := cut q (bundle q (arrange q kept))
  return {
    query := q
    entries
    total := entries.size
    executedAt := now
    fetched := records.length
    matched := kept.length }

/-- A result set as a value. -/
def toValue (r : ResultSet) : Value :=
  .object [
    ("results", .list r.entries.toValues),
    ("total", .nat r.total),
    ("grouped", .bool r.isGrouped),
    ("query", r.query.toValue),
    ("executed_at", .string r.executedAt.isoText),
    ("total_fetched", .nat r.fetched),
    ("total_matched", .nat r.matched)]

end ResultSet

end IssueQuery
