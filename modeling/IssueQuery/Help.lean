import IssueQuery.Calendar.Keyword
import IssueQuery.Query.Field

/-!
# Help

The help texts about the query language, put together from the catalogues of fields, values and
keywords.
-/

namespace IssueQuery.Help

/-- What help is available on. -/
inductive Topic where
  | syntaxRules
  | operators
  | examples
  | fields
  deriving DecidableEq

/-- The topics with their names. -/
def topics : List (String × Topic) := [
  ("syntax", .syntaxRules),
  ("operators", .operators),
  ("examples", .examples),
  ("fields", .fields)]

/-- Lines as one text. -/
def lines (ls : List String) : String :=
  "\n".intercalate ls

/-- A text in the font for code. -/
def code (s : String) : String :=
  "\x60" ++ s ++ "\x60"

/-- Pairs in the order of their first texts. -/
def sortedByName {α : Type} (pairs : List (String × α)) : List (String × α) :=
  pairs.mergeSort fun a b => Text.compareChars a.1.toList b.1.toList != .gt

/-- Help on the structure of queries. -/
def syntaxText : String :=
  lines [
    "**Query Syntax**",
    "",
    "## Filters",
    code "field:value" ++ " - field equals value",
    code "field:operator:value" ++ " - field compared with an operator, e.g. " ++
      code "points:>=5",
    code "field:a..b" ++ " - range, same as " ++ code "field:between:[a,b]",
    ", ".intercalate [code "field:*text*", code "field:text*", code "field:*text"] ++
      " - wildcard text match",
    "Quote values containing spaces: " ++ code "milestone:\"Sprint 3\"" ++ " or " ++
      code "subject:'login bug'",
    "",
    "## Logic",
    code "AND" ++ " / " ++ code "OR" ++ " join filters; a query uses one of them throughout.",
    "Adjacent filters without a keyword are joined with AND.",
    code "NOT" ++ " negates the filter that follows it.",
    "Parenthesized grouping is not supported.",
    "",
    "## Clauses (after the filters, each at most once)",
    code "ORDER BY field [ASC|DESC]" ++ " - sort; records without a value come first",
    code "GROUP BY field" ++ " - group results by a field",
    code "LIMIT n" ++ " - keep the first n results (or groups)",
    "",
    "## Time keywords",
    ", ".intercalate ((Text.sorted TimeKeyword.words).map code),
    ", ".intercalate [code "<n>h", code "<n>d", code "<n>w", code "<n>m", code "<n>y"] ++
      " - relative to now, e.g. " ++ code "updated:>7d"]

/-- Help on operators. -/
def operatorsText : String :=
  lines ([
    "**Operators**",
    "",
    "## Comparison",
    code "field:value" ++ " or " ++ code "field:=value" ++
      " - equals (numbers, case-insensitive text)",
    code "field:!=value" ++ " - not equals",
    ", ".intercalate [code "field:>value", code "field:>=value", code "field:<value",
      code "field:<=value"] ++ " - ordering",
    "",
    "## Text",
    code "field:contains:\"text\"" ++ " - contains text",
    code "field:startswith:text" ++ ", " ++ code "field:endswith:text" ++ " - prefix / suffix",
    code "field:~\"words\"" ++ " - fuzzy: every word must appear",
    "",
    "## Lists and ranges",
    code "field:in:[a,b]" ++ ", " ++ code "field:not_in:[a,b]" ++ " - membership",
    code "field:between:[a,b]" ++ " - inclusive numeric or date range",
    "",
    "## Presence",
    code "field:exists" ++ ", " ++ code "field:null" ++ " - has / has no value",
    code "field:empty" ++ ", " ++ code "field:notempty" ++ " - blank or empty vs. non-empty",
    "",
    "## Special values"] ++
    (sortedByName Field.specialValues).map fun (field, values) =>
      code field ++ ": " ++ ", ".intercalate (Text.sorted values))

/-- Example queries by category. -/
def examples : List (String × List String) := [
  ("Basic", [
    "status:open",
    "priority:high",
    "assignee:john",
    "type:bug"]),
  ("Comparison", [
    "points:>=5",
    "created:>2024-01-01",
    "updated:>7d",
    "ref:>100"]),
  ("Text Search", [
    "subject:contains:\"login\"",
    "description:*API*",
    "subject:~\"login bug\"",
    "tags:in:[frontend,backend]"]),
  ("Logical", [
    "status:open AND priority:high",
    "type:bug OR type:feature",
    "NOT status:closed",
    "milestone:null OR due_date:past"]),
  ("Advanced", [
    "status:open AND priority:high AND created:>7d",
    "tags:frontend AND points:3..8 AND status:!=done",
    "milestone:\"Sprint 3\" AND updated:>=this_week",
    "assignee:empty AND blocked:false"]),
  ("Sorting", [
    "status:open ORDER BY priority DESC",
    "assignee:john ORDER BY created ASC",
    "type:bug ORDER BY updated DESC LIMIT 10",
    "status:open GROUP BY assignee"])]

/-- Help by examples. -/
def examplesText : String :=
  lines ("**Query Examples**" ::
    examples.flatMap fun (category, queries) => "" :: ("## " ++ category) :: queries.map code)

/-- The heading of the fields of a kind of records. -/
def heading : EntityKind → String
  | .issue => "Issues"
  | .userStory => "User Stories"
  | .task => "Tasks"

/-- Help on the fields of each kind of records. -/
def fieldsText : String :=
  lines ("**Queryable Fields**" ::
    ([EntityKind.issue, .userStory, .task].flatMap fun kind =>
      "" :: ("## " ++ heading kind) ::
        (sortedByName (Field.catalogue kind)).map fun (field, type) =>
          code field ++ " (" ++ type.name ++ ")") ++
    "" :: "## Aliases" ::
    (sortedByName Field.aliases).map fun (name, field) => code name ++ " -> " ++ code field)

/-- What there is help on. -/
def overview : String :=
  lines [
    "**Advanced Query Overview**",
    "",
    "Search issues, user stories and tasks with a compact query language:",
    "filters, AND/OR/NOT, sorting, grouping and limits.",
    "",
    "## Help topics",
    code "syntax" ++ " - query structure and keywords",
    code "operators" ++ " - operators and special values",
    code "examples" ++ " - example queries",
    code "fields" ++ " - queryable fields per entity type"]

/-- The help text on a topic. -/
def Topic.text : Topic → String
  | syntaxRules => syntaxText
  | operators => operatorsText
  | examples => examplesText
  | fields => fieldsText

/-- The message about a name that is no topic. -/
def unknownTopic (name : String) : String :=
  "Unknown help topic '" ++ name ++ "'. Available: " ++ ", ".intercalate (topics.map (·.1))

/-- The help text on a topic given by its name, letter case aside; without one, the overview. -/
def text (name : Option String) : Except String String :=
  match name with
  | none => .ok overview
  | some name =>
    if name.isEmpty then .ok overview
    else
      match topics.lookup (Text.lower name) with
      | some topic => .ok topic.text
      | none => .error (unknownTopic name)

end IssueQuery.Help
