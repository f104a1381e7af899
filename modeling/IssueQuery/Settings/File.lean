import IssueQuery.Settings.Choice
import IssueQuery.Text.Quoted

/-!
# Settings files

A settings file names the settings, either as a whole or in a part of it that is named after the
tracker.
-/

namespace IssueQuery.Settings

/-- Why a file gives no settings. -/
inductive FileFault where
  /-- There is no such file. -/
  | missing
  | unreadable (e : Json.ReadError)
  /-- The file does not name its parts. -/
  | notMapping
  /-- The part that the settings are in does not name its parts. -/
  | sectionNotMapping
  deriving DecidableEq

/-- The message about a fault in the file with a given name. -/
def FileFault.message (file : String) : FileFault → String
  | .missing => "[Errno 2] No such file or directory: " ++ Text.quoted file
  | .unreadable e => e.message
  | .notMapping => "Config file " ++ file ++ " must contain a mapping"
  | .sectionNotMapping => "'taiga' section in " ++ file ++ " must be a mapping"

/-- The fields of the settings in a file, which may be its part `taiga` or the whole of it.  A file
that says nothing has none. -/
def fieldsOf (content : Value) : Except FileFault (List (String × Value)) :=
  if !content.isTruthy then .ok []
  else
    match content with
    | .object fields =>
      match (fields.lookup "taiga").getD content with
      | .object fields => .ok fields
      | _ => .error .sectionNotMapping
    | _ => .error .notMapping

/-- The fields of the settings in the text of a file. -/
def readFile (reader : Reader) (s : String) : Except FileFault (List (String × Value)) :=
  match reader.file s with
  | .ok content => fieldsOf content
  | .error e => .error (.unreadable e)

/-- Why settings cannot be had. -/
inductive LoadError where
  | file (name : String) (fault : FileFault)
  | rejected (misfits : List Misfit)
  deriving DecidableEq

/-- The message about a failure to load settings. -/
def LoadError.message : LoadError → String
  | .file name fault => fault.message name
  | .rejected misfits => misfitMessage misfits

/-- The texts of the files at hand by their names. -/
abbrev Files := List (String × String)

/-- Loads settings from the environment and, if it has a name, from a file. -/
def load (files : Files) (environment : Environment) (name : Option String)
    (reader : Reader := .lax) : Except LoadError Settings := do
  let fields ←
    match name.filter (!·.isEmpty) with
    | none => pure []
    | some name =>
      match files.lookup name with
      | none => throw (.file name .missing)
      | some text => (readFile reader text).mapError (.file name)
  (choose environment fields reader).mapError .rejected

end IssueQuery.Settings
