import IssueQuery.Value.Basic

/-!
# Records

A record is a value, usually an object, together with its place in the list that it came from.
-/

namespace IssueQuery

/-- A record of a tracker. -/
structure Record where
  /-- The number of records before it in the list that it came from. -/
  place : Nat
  content : Value
  deriving Inhabited

namespace Record

/-- The records of a list. -/
def ofValues (values : List Value) : List Record :=
  values.zipIdx.map fun (content, place) => { place, content }

/-- The value under a name, or nothing. -/
def get (r : Record) (name : String) : Value :=
  r.content.get name

end Record

end IssueQuery
