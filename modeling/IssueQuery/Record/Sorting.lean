import IssueQuery.Query.Basic
import IssueQuery.Record.Resolution
import IssueQuery.Text.Collation
import IssueQuery.Value.Text

/-!
# Sorting records

Records are sorted by the value of a field: texts by collation, numbers by size, and all else by
the characters of their labels.  Records without a value come first in either direction, and records
with equal values keep their order.
-/

namespace IssueQuery

namespace Value

/-- Order of two values of a field in a sorted list; what is no number is as large as anything. -/
def sortOrder : Value → Value → Ordering
  | .string s, .string t => (Text.collationKey s).compare (Text.collationKey t)
  | .number m, .number n => (Number.compare? m n).getD .eq
  | v, w => Text.compareChars v.label.toList w.label.toList

end Value

namespace SortOrder

/-- Whether a value may stand before another one in a direction. -/
def mayPrecede (direction : Direction) (v w : Value) : Bool :=
  match direction with
  | .ascending => v.sortOrder w != .gt
  | .descending => v.sortOrder w != .lt

/-- The records in the order of a field. -/
def apply (order : SortOrder) (records : List Record) : List Record :=
  let keyed := records.map fun r => (r.resolve order.field, r)
  let missing := keyed.filter (·.1.isNull)
  let present := keyed.filter (!·.1.isNull)
  missing.map (·.2) ++
    (present.mergeSort fun a b => mayPrecede order.direction a.1 b.1).map (·.2)

end SortOrder

end IssueQuery
