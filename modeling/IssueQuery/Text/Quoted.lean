import IssueQuery.Text.Packed
import IssueQuery.Text.Printable.Table
import IssueQuery.Text.Surrogate

/-!
# Quoted texts

How a text is shown inside another value: between single quotes, or between double quotes when it
holds single quotes only, with a backslash before what could be misread and numbers for characters
without a visible form.
-/

namespace IssueQuery.Text

open Packed

namespace Quoted

def hidden : Index := .ofRows Printable.Table.hidden

/-- Whether a character has a visible form; the blank of ASCII is the only separator that has. -/
def isPrintable (c : Char) : Bool :=
  if c.toNat < 128 then 32 ≤ c.toNat && c.toNat < 127 else !hidden.covers c.toNat

/-- The lower-case hexadecimal digits of `n`, padded with zeros to `width`. -/
def hex (width n : Nat) : List Char :=
  let digits := Nat.toDigits 16 n
  List.replicate (width - digits.length) '0' ++ digits

/-- One character as it stands between quotes of the kind `quote`. -/
def escape (quote c : Char) : List Char :=
  if c = quote ∨ c = '\\' then ['\\', c]
  else if c = '\n' then ['\\', 'n']
  else if c = '\r' then ['\\', 'r']
  else if c = '\t' then ['\\', 't']
  else if isPrintable c then [c]
  else if c.toNat < 0x100 then '\\' :: 'x' :: hex 2 c.toNat
  else if c.toNat < 0x10000 then '\\' :: 'u' :: hex 4 c.toNat
  else
    match surrogate? c with
    | some n => '\\' :: 'u' :: hex 4 n
    | none => '\\' :: 'U' :: hex 8 c.toNat

/-- The kind of quote that a text is put between. -/
def quoteFor (cs : List Char) : Char :=
  if cs.contains '\'' && !cs.contains '"' then '"' else '\''

end Quoted

/-- A text between quotes. -/
def quoted (s : String) : String :=
  let q := Quoted.quoteFor s.toList
  String.ofList (q :: s.toList.flatMap (Quoted.escape q) ++ [q])

/-- The message about a text that writes no integer; it shows the first 200 characters of it. -/
def noIntegerMessage (s : String) : String :=
  "invalid literal for int() with base 10: " ++ String.ofList ((quoted s).toList.take 200)

end IssueQuery.Text
