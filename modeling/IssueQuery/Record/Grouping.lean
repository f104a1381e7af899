import IssueQuery.Dictionary
import IssueQuery.Record.Resolution
import IssueQuery.Value.Text

/-!
# Grouping records

Records with the same label of a field form a group.  Groups stand in the order of their first
records, and the records of a group keep their order.
-/

namespace IssueQuery

/-- The records with one label, and their number. -/
structure Group where
  label : String
  items : List Record
  count : Nat

namespace Group

/-- The label of the group of records without a value. -/
def undefinedLabel : String := "undefined"

/-- The label of the group that a record with a given value of the field belongs to. -/
def labelOf : Value → String
  | .null => undefinedLabel
  | .string s => if s.isEmpty then undefinedLabel else s
  | v => v.label

/-- The label of the group of a record. -/
def labelIn (field : String) (r : Record) : String :=
  labelOf (r.resolve field)

/-- Files a record under its label. -/
def file (field : String) (filed : Dictionary String (List Record)) (r : Record) :
    Dictionary String (List Record) :=
  filed.alter (labelIn field r) [] (· ++ [r])

/-- The groups of records by a field. -/
def ofRecords (field : String) (records : List Record) : List Group :=
  (records.foldl (file field) []).map fun (label, items) =>
    { label, items, count := items.length }

/-- A group as a value. -/
def toValue (g : Group) : Value :=
  .object [
    ("group_value", .string g.label),
    ("count", .nat g.count),
    ("items", .list (g.items.map (·.content)))]

end Group

end IssueQuery
