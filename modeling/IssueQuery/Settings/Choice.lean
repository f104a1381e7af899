import IssueQuery.Logging
import IssueQuery.Settings.Basic
import IssueQuery.Settings.Reader

/-!
# Choosing settings

Each setting is taken from the environment if it is set there, else from a file if the file has it,
and else it keeps its initial value.  A value is read in the type of its setting, and numbers have
to be greater than zero.  All values that do not fit are reported together.
-/

namespace IssueQuery.Settings

/-! ## Values for settings -/

/-- A value as a text that may be missing. -/
def optionalText (reader : Reader) : Value → Except Fault (Option String)
  | .null => .ok none
  | v => (reader.text v).map some

/-- A value as a positive integer. -/
def positiveInteger (reader : Reader) (v : Value) : Except Fault Nat := do
  let n ← reader.integer v
  if 0 < n then return n.toNat else throw .notPositive

/-- A value as a double that is greater than zero, which what is no number is not. -/
def positiveDouble (reader : Reader) (v : Value) : Except Fault Double := do
  let x ← reader.double v
  if (Number.double x).isPositive then return x else throw .notPositive

/-- An address without the slashes at its end. -/
def stripSlashes (s : String) : String :=
  String.ofList (s.toList.reverse.dropWhile (· = '/')).reverse

/-- A value as an address. -/
def address (reader : Reader) (v : Value) : Except Fault String :=
  (reader.text v).map stripSlashes

/-- A value as the name of a level of logging, in capitals. -/
def level (reader : Reader) (v : Value) : Except Fault String := do
  let name := Text.upper (← reader.text v)
  if (Logging.level? name).isSome then return name else throw .unknownLevel

/-! ## Choices -/

/-- A value that does not fit the setting that it was chosen for. -/
structure Misfit where
  setting : Setting
  fault : Fault
  deriving DecidableEq

/-- The message about values that do not fit. -/
def misfitMessage (misfits : List Misfit) : String :=
  let count :=
    if misfits.length = 1 then "1 validation error"
    else toString misfits.length ++ " validation errors"
  count ++ " for Settings" ++
    String.join (misfits.map fun m => "\n" ++ m.setting.name ++ "\n  " ++ m.fault.message)

/-- The environment of a program: variables and their texts. -/
abbrev Environment := List (String × String)

/-- The text of a variable, if it has one that is not empty. -/
def Environment.text? (e : Environment) (name : String) : Option String :=
  (List.lookup name e).filter (!·.isEmpty)

/-- The value that is chosen for a setting out of the environment and the fields of a file. -/
def chosen (environment : Environment) (file : List (String × Value)) (s : Setting) :
    Option Value :=
  match environment.text? s.environmentName with
  | some text => some (.string text)
  | none => file.lookup s.name

/-- The value of a setting, or the list with the one misfit that it is. -/
def read {α : Type} (choose : Setting → Option Value) (s : Setting)
    (coerce : Value → Except Fault α) (initial : α) : Except (List Misfit) α :=
  match choose s with
  | none => .ok initial
  | some v => (coerce v).mapError fun fault => [⟨s, fault⟩]

/-- Applies a function to a value, where the misfits of both add up. -/
def combine {α β : Type} (f : Except (List Misfit) (α → β)) (x : Except (List Misfit) α) :
    Except (List Misfit) β :=
  match f, x with
  | .ok f, .ok a => .ok (f a)
  | .ok _, .error misfits => .error misfits
  | .error misfits, .ok _ => .error misfits
  | .error first, .error second => .error (first ++ second)

/-- The settings that a choice of values makes. -/
def ofChoice (reader : Reader) (choose : Setting → Option Value) :
    Except (List Misfit) Settings :=
  let apiUrl := read choose .apiUrl (address reader) initial.apiUrl
  let username := read choose .username (optionalText reader) initial.username
  let password := read choose .password (optionalText reader) initial.password
  let authToken := read choose .authToken (optionalText reader) initial.authToken
  let pageSize := read choose .pageSize (positiveInteger reader) initial.pageSize
  let requestTimeout := read choose .requestTimeout (positiveDouble reader) initial.requestTimeout
  let queryTimeout := read choose .queryTimeout (positiveDouble reader) initial.queryTimeout
  let maxComplexity := read choose .maxComplexity (positiveDouble reader) initial.maxComplexity
  let taskConcurrency :=
    read choose .taskConcurrency (positiveInteger reader) initial.taskConcurrency
  let logLevel := read choose .logLevel (level reader) initial.logLevel
  let start := combine (combine (combine (apiUrl.map Settings.mk) username) password) authToken
  let middle := combine (combine (combine start pageSize) requestTimeout) queryTimeout
  combine (combine (combine middle maxComplexity) taskConcurrency) logLevel

/-- The settings that the environment and the fields of a file make. -/
def choose (environment : Environment) (file : List (String × Value)) (reader : Reader := .lax) :
    Except (List Misfit) Settings :=
  ofChoice reader (chosen environment file)

end IssueQuery.Settings
