/-!
# Packed number tables

Tables of character properties are kept as text: rows of entries parted by blanks, each entry a
run of hexadecimal numbers joined by points.  This module reads such rows and looks characters up
in the result.
-/

namespace IssueQuery.Text.Packed

/-- The value of one hexadecimal digit; any other character counts as zero. -/
def hexDigit (c : Char) : Nat :=
  if c.isDigit then c.toNat - '0'.toNat
  else if 'A' ≤ c ∧ c ≤ 'F' then c.toNat - 'A'.toNat + 10
  else 0

/-- The numbers of one entry, read from its characters. -/
def numbers (entry : List Char) : List Nat :=
  (entry.splitOn '.').map (·.foldl (fun n c => 16 * n + hexDigit c) 0)

/-- The entries of all rows, in order. -/
def entries (rows : List String) : List (List Nat) :=
  rows.flatMap fun row => ((row.toList.splitOn ' ').map numbers)

/-- The index of the last entry in `keys[lo, hi)` that is not above `n`, found by halving. -/
def searchLast (keys : Array Nat) (n lo hi : Nat) : Option Nat :=
  if h : lo < hi then
    let mid := (lo + hi) / 2
    if keys.getD mid 0 ≤ n then
      (searchLast keys n (mid + 1) hi).or (some mid)
    else
      searchLast keys n lo mid
  else none
termination_by hi - lo

/-- Entries in the order of their first numbers. -/
structure Index where
  keys : Array Nat
  rows : Array (List Nat)

/-- The index whose entries stand in `text`. -/
def Index.ofRows (text : List String) : Index :=
  let rows := entries text
  ⟨(rows.map (·.headD 0)).toArray, (rows.map (·.tailD [])).toArray⟩

/-- The last entry whose first number is not above `n`. -/
def Index.below (t : Index) (n : Nat) : Option (Nat × List Nat) :=
  (searchLast t.keys n 0 t.keys.size).map fun i => (t.keys.getD i 0, t.rows.getD i [])

/-- Whether `n` lies in one of the ranges `first.last` of the index. -/
def Index.covers (t : Index) (n : Nat) : Bool :=
  match t.below n with
  | some (_, last :: _) => n ≤ last
  | _ => false

/-- The rest of the entry that begins with `n`. -/
def Index.find? (t : Index) (n : Nat) : Option (List Nat) :=
  match t.below n with
  | some (first, rest) => if first = n then some rest else none
  | none => none

/-- The value carried by the range `first.last.value` that holds `n`. -/
def Index.valueAt? (t : Index) (n : Nat) : Option Nat :=
  match t.below n with
  | some (_, [last, value]) => if n ≤ last then some value else none
  | _ => none

/-- The image of `n` under the run `first.last.step.image` that holds it. -/
def Index.imageOf? (t : Index) (n : Nat) : Option Nat :=
  match t.below n with
  | some (first, [last, step, image]) =>
    if n ≤ last ∧ (n - first) % step = 0 then some (image + (n - first)) else none
  | _ => none

end IssueQuery.Text.Packed
