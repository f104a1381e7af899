import IssueQuery.Settings.Coercion
import IssueQuery.Settings.Document

/-!
# Readers of settings

Settings leave it to others how a value is read as a text or a number and what a file says.  All
that they rely on is that a value of the right type is read as it is and that an empty file says
nothing.
-/

namespace IssueQuery.Settings

/-- How values are read in the types of settings, and the texts of files as values. -/
structure Reader where
  text : Value → Except Fault String
  integer : Value → Except Fault Int
  double : Value → Except Fault Double
  file : String → Except Json.ReadError Value
  text_string : ∀ s, text (.string s) = .ok s
  integer_int : ∀ n, integer (.int n) = .ok n
  double_double : ∀ x, double (.double x) = .ok x
  file_empty : file "" = .ok .null

/-- The reader with lax types. -/
def Reader.lax : Reader where
  text := Lax.text
  integer := Lax.integer
  double := Lax.double
  file := Document.read
  text_string _ := rfl
  integer_int _ := rfl
  double_double _ := rfl
  file_empty := rfl

end IssueQuery.Settings
