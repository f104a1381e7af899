import IssueQuery.Number.Basic
import IssueQuery.Text.Case

/-!
# Levels of logging

The names of the levels of importance of log messages and the numbers that they stand for.
-/

namespace IssueQuery.Logging

/-- The names of levels. -/
def levels : List (String × Nat) := [
  ("CRITICAL", 50),
  ("FATAL", 50),
  ("ERROR", 40),
  ("WARN", 30),
  ("WARNING", 30),
  ("INFO", 20),
  ("DEBUG", 10),
  ("NOTSET", 0)]

/-- The number of a level whose name is written in capitals. -/
def level? (name : String) : Option Nat :=
  levels.lookup name

/-- What a name in capitals may stand for if it is no level. -/
inductive Reserved where
  /-- A text. -/
  | text
  /-- A table. -/
  | table
  deriving DecidableEq

/-- Names in capitals that stand for something else than a level. -/
def reserved : List (String × Reserved) := [
  ("BASIC_FORMAT", .text),
  ("_STYLES", .table)]

/-- The level to be set when a level is asked for by name: debugging wins, and what is no name of
a level counts as `INFO`.  A reserved name sets none. -/
def effective (name : String) (debug : Bool) : Except Reserved Nat :=
  if debug then .ok 10
  else
    match reserved.lookup (Text.upper name) with
    | some r => .error r
    | none => .ok ((level? (Text.upper name)).getD 20)

end IssueQuery.Logging
