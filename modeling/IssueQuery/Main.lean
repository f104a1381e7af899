import IssueQuery.Command.Basic
import IssueQuery.Json.Writer
import Std.Time.DateTime.Timestamp

/-!
# The command line

Takes the arguments, the environment and the files that they name, runs the command and prints what
it tells.
-/

namespace IssueQuery.Main

/-- How the command is used. -/
def usage : String :=
  "usage: issue-query [-h] [-t \x7bissues,user_stories,tasks\x7d] [-p PROJECT]\n" ++
  "                   [--records RECORDS] [--validate] [-c CONFIG] [-o OUTPUT] [-v]\n" ++
  "                   query"

/-- The texts of those of the named files that can be read. -/
def readFiles : List String → IO Settings.Files
  | [] => pure []
  | name :: names => do
    let files ← readFiles names
    try
      let text ← IO.FS.readFile name
      return (name, text) :: files
    catch _ => return files

/-- The variables of the environment that can change settings. -/
def readEnvironment : List Setting → IO Settings.Environment
  | [] => pure []
  | s :: settings => do
    let others ← readEnvironment settings
    match ← IO.getEnv s.environmentName with
    | some text => return (s.environmentName, text) :: others
    | none => return others

/-- The files that the arguments name. -/
def namedFiles (arguments : List String) : List String :=
  match Command.Arguments.read arguments with
  | .ok (some a) => a.config.toList ++ a.records.toList
  | _ => []

/-- The present moment. -/
def now : IO Moment := do
  let nanos := (← Std.Time.Timestamp.now).toNanosecondsSinceUnixEpoch.val
  return (Moment.ofEpochMicros? (nanos / 1000)).getD ⟨.first, .midnight, .utc⟩

/-- Prints how the command ended and gives its exit code. -/
def report : Command.Outcome → IO UInt32
  | .help => do
    IO.println usage
    return 0
  | .misused _ => do
    IO.eprintln usage
    return 2
  | .failed f => do
    IO.eprintln (Json.write f.toValue)
    return 1
  | .done result none => do
    IO.println (Json.writeIndented result)
    return 0
  | .done result (some name) => do
    IO.FS.writeFile name (Json.writeIndented result)
    return 0

/-- Runs the command in the surroundings of the program. -/
def run (arguments : List String) : IO UInt32 := do
  let files ← readFiles (namedFiles arguments)
  let environment ← readEnvironment Setting.all
  report (Command.run { files, environment, now := ← now } arguments)

end IssueQuery.Main

def main (arguments : List String) : IO UInt32 :=
  IssueQuery.Main.run arguments
