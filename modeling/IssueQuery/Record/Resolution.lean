import IssueQuery.Record.Basic
import IssueQuery.Value.Coercion

/-!
# Resolution of fields

Trackers say the same thing in several places of a record: under a name, in an object with further
information, or in a list.  Each field of the catalogue has a rule that brings these shapes to one
value.  Fields that stand for other records have alternates besides, identifiers or names under
which they may be looked for.
-/

namespace IssueQuery

/-- A place of a record where a value may stand. -/
inductive Location where
  /-- The end of a path of names. -/
  | path (names : List String)
  /-- A part of the first epic in the list of epics. -/
  | firstEpic (name : String)
  deriving DecidableEq

/-- How the value of a field is found. -/
inductive Resolver where
  /-- The first place that says something; `false` does. -/
  | firstOf (locations : List Location)
  /-- Whether a flag is set to `true`. -/
  | flag (name : String)
  /-- The number of elements of a list. -/
  | size (name : String)
  /-- A counter, which is zero where it says nothing. -/
  | counter (name : String)
  /-- A total, or else the number that a second place holds. -/
  | total (name second : String)
  /-- The names in a list of labels, each of which is a name or a list that begins with one. -/
  | labels (name : String)
  deriving DecidableEq

namespace Location

/-- A path written with points between the names. -/
def dotted (path : String) : Location :=
  .path ((path.toList.splitOn '.').map String.ofList)

/-- The value at a place of a record. -/
def read (record : Value) : Location → Value
  | path names => record.getPath names
  | firstEpic name =>
    match record.get "epics" with
    | .list (epic :: _) => epic.get name
    | _ => .null

end Location

namespace Resolver

/-- Whether a value counts as found. -/
def isFound : Value → Bool
  | .bool _ => true
  | v => v.isTruthy

/-- The names in a list of labels. -/
def labelNames (items : List Value) : List Value :=
  items.filterMap fun
    | .list (name :: _) => some name
    | .list [] => none
    | .null => none
    | v => some v

/-- The value that a rule finds in a record. -/
def read (record : Value) : Resolver → Value
  | firstOf locations => ((locations.map (·.read record)).find? isFound).getD .null
  | flag name =>
    match record.get name with
    | .bool b => .bool b
    | _ => .bool false
  | size name =>
    match record.get name with
    | .list items => .nat items.length
    | _ => .nat 0
  | counter name =>
    let v := record.get name
    if v.isTruthy then v else .nat 0
  | total name second =>
    match record.get name with
    | .null =>
      match (record.get second).toNumber? with
      | some n => .number n
      | none => .null
    | v => v
  | labels name =>
    match record.get name with
    | .list items => .list (labelNames items)
    | v => v

/-- The rule that tries places written with points, in order. -/
def first (paths : List String) : Resolver :=
  .firstOf (paths.map Location.dotted)

/-- The rule for a user: a name, an identifier, or what stands under the plain name. -/
def user (name : String) : Resolver :=
  first [name ++ "_extra_info.username", name ++ "_extra_info.id", name]

/-- The rule for a named entry of a vocabulary. -/
def entry (name : String) : Resolver :=
  first [name ++ "_extra_info.name", name ++ "_extra_info.id", name]

/-- The rules of the fields that do not stand under their own name. -/
def table : List (String × Resolver) := [
  ("milestone", first ["milestone_slug", "milestone_extra_info.slug",
    "milestone_extra_info.name", "milestone_id", "milestone"]),
  ("epic", .firstOf [.dotted "epic_extra_info.subject", .firstEpic "subject", .dotted "epic_id",
    .dotted "epic_extra_info.id", .firstEpic "id", .dotted "epic"]),
  ("user_story", first ["user_story_extra_info.subject", "user_story_id",
    "user_story_extra_info.id", "user_story"]),
  ("assignee", user "assigned_to"),
  ("owner", user "owner"),
  ("reporter", first ["reporter", "owner_extra_info.username", "owner"]),
  ("status", entry "status"),
  ("priority", entry "priority"),
  ("type", entry "type"),
  ("severity", entry "severity"),
  ("blocked", .flag "is_blocked"),
  ("closed", .flag "is_closed"),
  ("attachments", .size "attachments"),
  ("comments", .counter "total_comments"),
  ("created", first ["created_date"]),
  ("updated", first ["modified_date"]),
  ("due_date", first ["due_date"]),
  ("finish_date", first ["finish_date"]),
  ("points", .total "total_points" "points"),
  ("tags", .labels "tags")]

/-- The rule of a field; one without a rule of its own is a path through the record. -/
def ofField (field : String) : Resolver ⊕ Location :=
  match table.lookup field with
  | some resolver => .inl resolver
  | none => .inr (.dotted field)

/-- The identifier of an entry of a vocabulary. -/
def identifier (name : String) : List Resolver :=
  [first [name ++ "_extra_info.id", name]]

/-- The rules for the alternates of fields that stand for other records. -/
def alternates : List (String × List Resolver) := [
  ("milestone", [
    first ["milestone_extra_info.name"],
    first ["milestone_id", "milestone_extra_info.id", "milestone"]]),
  ("epic", [
    .firstOf [.dotted "epic_id", .dotted "epic_extra_info.id", .firstEpic "id", .dotted "epic"],
    first ["epic_extra_info.ref"]]),
  ("user_story", [
    first ["user_story_id", "user_story_extra_info.id", "user_story"],
    first ["user_story_extra_info.ref"]]),
  ("assignee", [
    first ["assigned_to_extra_info.id", "assigned_to"],
    first ["assigned_to_extra_info.full_name_display"]]),
  ("owner", [
    first ["owner_extra_info.id", "owner"],
    first ["owner_extra_info.full_name_display"]]),
  ("status", identifier "status"),
  ("priority", identifier "priority"),
  ("type", identifier "type"),
  ("severity", identifier "severity")]

end Resolver

namespace Record

/-- The value of a field in a record. -/
def resolve (r : Record) (field : String) : Value :=
  match Resolver.ofField field with
  | .inl resolver => resolver.read r.content
  | .inr location => location.read r.content

/-- The other values under which a field may be looked for. -/
def alternates (r : Record) (field : String) : List Value :=
  (((Resolver.alternates.lookup field).getD []).map (·.read r.content)).filter (!·.isNull)

/-- All values under which a field may be looked for. -/
def candidates (r : Record) (field : String) : List Value :=
  r.resolve field :: r.alternates field

end Record

end IssueQuery
