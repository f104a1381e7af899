import IssueQuery.Calendar.Moment
import IssueQuery.Number.Basic

/-!
# Values

The dynamic values that records hold and queries compare with: those of the exchange format of
records, and dates and times that a program may put into records by itself.
-/

namespace IssueQuery

/-- A value of a record or of a query. -/
inductive Value where
  | null
  | bool (b : Bool)
  | number (n : Number)
  | string (s : String)
  | list (items : List Value)
  /-- Named values in the order in which they were written, each name at most once. -/
  | object (fields : List (String × Value))
  | dateTime (t : DateTime)
  | date (d : Date)
  deriving Inhabited

namespace Value

/-- An integer as a value. -/
def int (n : Int) : Value :=
  .number (.int n)

/-- A size as a value. -/
def nat (n : Nat) : Value :=
  .number (.int n)

/-- A double as a value. -/
def double (x : Double) : Value :=
  .number (.double x)

/-- A text that may be missing. -/
def ofString? : Option String → Value
  | some s => .string s
  | none => .null

/-- The fields of an object; any other value has none. -/
def fields : Value → List (String × Value)
  | .object fields => fields
  | _ => []

/-- The value under a name, if the value is an object that has one. -/
def get? (v : Value) (name : String) : Option Value :=
  v.fields.lookup name

/-- The value under a name, or nothing. -/
def get (v : Value) (name : String) : Value :=
  (v.get? name).getD .null

/-- Whether an object has a value under a name. -/
def has (v : Value) (name : String) : Bool :=
  (v.get? name).isSome

/-- The value at the end of a path of names. -/
def getPath (v : Value) (path : List String) : Value :=
  path.foldl get v

def isNull : Value → Bool
  | .null => true
  | _ => false

/-- Whether a value says something: `null`, `false`, zero and what is empty do not. -/
def isTruthy : Value → Bool
  | .null => false
  | .bool b => b
  | .number n => !n.same (.int 0)
  | .string s => !s.isEmpty
  | .list items => !items.isEmpty
  | .object fields => !fields.isEmpty
  | .dateTime _ => true
  | .date _ => true

/-- Puts a value under a name: in the place of the value that is there, or at the end. -/
def insertField (name : String) (v : Value) : List (String × Value) → List (String × Value)
  | [] => [(name, v)]
  | (n, w) :: rest => if n = name then (n, v) :: rest else (n, w) :: insertField name v rest

/-- The number that a truth value counts as. -/
def boolNumber (b : Bool) : Number :=
  .int (if b then 1 else 0)

/-- Whether two dates and times are the same: at the same instant if both have an offset, and with
the same fields if neither has. -/
def sameDateTime (s t : DateTime) : Bool :=
  match s.offset, t.offset with
  | some _, some _ => s.toMoment.instant = t.toMoment.instant
  | none, none => s = t
  | _, _ => false

mutual

/-- Whether two values are the same, where numbers and truth values are compared as numbers and
the order of fields does not matter. -/
def same : Value → Value → Bool
  | .null, .null => true
  | .bool a, .bool b => a == b
  | .bool a, .number n => (boolNumber a).same n
  | .number m, .bool b => m.same (boolNumber b)
  | .number m, .number n => m.same n
  | .string s, .string t => s == t
  | .list xs, .list ys => sameList xs ys
  | .object xs, .object ys => xs.length == ys.length && sameFields xs ys
  | .dateTime s, .dateTime t => sameDateTime s t
  | .date c, .date d => c = d
  | _, _ => false

/-- Whether two lists are the same element by element. -/
def sameList : List Value → List Value → Bool
  | [], [] => true
  | x :: xs, y :: ys => same x y && sameList xs ys
  | _, _ => false

/-- Whether each of the first fields has its counterpart among the others. -/
def sameFields : List (String × Value) → List (String × Value) → Bool
  | [], _ => true
  | (name, x) :: xs, ys =>
    (match ys.lookup name with
     | some y => same x y
     | none => false) && sameFields xs ys

end

end Value

end IssueQuery
