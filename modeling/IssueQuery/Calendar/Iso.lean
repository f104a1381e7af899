import IssueQuery.Calendar.Moment

/-!
# Reading dates and times

Reads the exchange format of dates and times: a day as year, month and day or as year, week and
weekday, with hyphens or without; then, behind one separating character of any kind, a time of day
with colons or without; then an offset.  Only the digits of ASCII count.
-/

namespace IssueQuery.Iso

/-- The value of the first `n` characters if they are digits, and what follows them. -/
def digits? (n : Nat) (cs : List Char) : Option (Nat × List Char) :=
  let ds := cs.take n
  if ds.length = n ∧ ds.all Char.isDigit then
    some (ds.foldl (fun v c => 10 * v + (c.toNat - '0'.toNat)) 0, cs.drop n)
  else none

/-- Takes a given character off the front. -/
def skip? (c : Char) : List Char → Option (List Char)
  | d :: cs => if d = c then some cs else none
  | [] => none

/-- Whether a text is over; a zero byte ends it. -/
def isOver : List Char → Bool
  | [] => true
  | c :: _ => c = '\x00'

/-- The number of characters of the day with which a text begins, judged by its fifth to ninth
character and, for a week without hyphens, by the number of digits that follow. -/
def dayLength (cs : List Char) : Nat :=
  let at? (i : Nat) := cs[i]?
  if cs.length = 7 then 7
  else if at? 4 = some '-' then
    if at? 5 = some 'W' then
      if at? 8 = some '-' then
        if (at? 10).any Char.isDigit then 8 else 10
      else 8
    else 10
  else if at? 4 = some 'W' then
    let pairsEnd := 7 + ((cs.drop 7).takeWhile Char.isDigit).length
    if pairsEnd < 9 then pairsEnd
    else if pairsEnd % 2 = 0 then 7
    else 8
  else 8

/-- Reads a day that takes up the whole of `cs`. -/
def readDay? (cs : List Char) : Option Date := do
  let (year, rest) ← digits? 4 cs
  let hyphens := rest.head? == some '-'
  let rest := if hyphens then rest.drop 1 else rest
  match rest with
  | 'W' :: rest =>
    let (week, rest) ← digits? 2 rest
    if rest.isEmpty then Date.ofWeek? year week 1
    else
      let rest ← if hyphens then skip? '-' rest else some rest
      let (weekday, _) ← digits? 1 rest
      Date.ofWeek? year week weekday
  | _ =>
    let (month, rest) ← digits? 2 rest
    let rest ← if hyphens then skip? '-' rest else some rest
    let (day, rest) ← digits? 2 rest
    if rest.isEmpty then Date.ofCivil? year month day else none

/-- The parts of a time of day or of an offset. -/
structure Parts where
  hour : Nat
  minute : Nat
  second : Nat
  micro : Nat
  /-- Whether something stands behind the parts that was not read. -/
  leftover : Bool

/-- What stands behind the fields of a time of day. -/
inductive Tail where
  /-- No fraction: the end of the text, or one more character of ASCII. -/
  | plain (rest : List Char)
  /-- A fraction of a second, which is never empty. -/
  | fraction (cs : List Char)

/-- Reads at most `n` more fields of two digits behind those in `read`, latest first; `colons`
tells whether the first field was followed by a colon. -/
def readFields? (colons : Bool) : Nat → List Nat → List Char → Option (List Nat × Tail)
  | 0, read, cs => some (read, .fraction cs)
  | n + 1, read, cs =>
    match digits? 2 cs with
    | none => none
    | some (value, []) => some (value :: read, .plain [])
    | some (value, [c]) => if c.toNat < 128 then some (value :: read, .plain [c]) else none
    | some (value, c :: more) =>
      if colons && c = ':' then readFields? colons n (value :: read) more
      else if c = '.' || c = ',' then some (value :: read, .fraction more)
      else if !colons then readFields? colons n (value :: read) (c :: more)
      else none

/-- Reads a fraction of a second: up to six digits count, further ones are passed over. -/
def readFraction? (cs : List Char) : Option (Nat × List Char) :=
  let n := min cs.length 6
  (digits? n cs).map fun (value, rest) =>
    (value * [1000000, 100000, 10000, 1000, 100, 10, 1].getD n 1, rest.dropWhile Char.isDigit)

/-- Reads hour, minute, second and fraction, as far as they are there. -/
def readParts? (cs : List Char) : Option Parts :=
  let colons := cs[2]? == some ':'
  match readFields? colons 3 [] cs with
  | none => none
  | some (read, tail) =>
    let fields := read.reverse
    let parts (micro : Nat) (rest : List Char) : Parts :=
      { hour := fields.getD 0 0
        minute := fields.getD 1 0
        second := fields.getD 2 0
        micro
        leftover := !isOver rest }
    match tail with
    | .plain rest => some (parts 0 rest)
    | .fraction cs => (readFraction? cs).map fun (micro, rest) => parts micro rest

/-- Whether a character begins an offset. -/
def beginsOffset (c : Char) : Bool :=
  c = '+' || c = '-' || c = 'Z'

/-- Reads the offset that takes up the whole of `cs`.  One without hours, minutes and seconds is
universal time, whatever its fraction. -/
def readOffset? : List Char → Option Offset
  | 'Z' :: rest => if isOver rest then some .utc else none
  | sign :: rest =>
    match readParts? rest with
    | none => none
    | some p =>
      let seconds := (p.hour * 60 + p.minute) * 60 + p.second
      let micros : Int := if seconds = 0 then 0 else seconds * 1000000 + p.micro
      if p.leftover then none
      else Offset.ofMicros? (if sign = '-' then -micros else micros)
  | [] => none

/-- Reads a time of day and, if there is one, the offset behind it.  What follows a complete
fraction is passed over if an offset comes after it. -/
def readClock? (cs : List Char) : Option (ClockTime × Option Offset) :=
  let offset := cs.dropWhile (!beginsOffset ·)
  match readParts? (cs.takeWhile (!beginsOffset ·)) with
  | none => none
  | some p =>
    match ClockTime.ofParts? p.hour p.minute p.second p.micro with
    | none => none
    | some clock =>
      if offset.isEmpty then (if p.leftover then none else some (clock, none))
      else (readOffset? offset).map fun o => (clock, some o)

/-- The date and time that a text stands for; a day alone stands for its beginning. -/
def readChars? (cs : List Char) : Option DateTime :=
  if cs.length < 7 then none
  else
    let n := dayLength cs
    match readDay? (cs.take n) with
    | none => none
    | some date =>
      let rest := cs.drop n
      if rest.isEmpty then some ⟨date, .midnight, none⟩
      else (readClock? (rest.drop 1)).map fun (clock, offset) => ⟨date, clock, offset⟩

/-- The date and time that a text stands for. -/
def read? (s : String) : Option DateTime :=
  readChars? s.toList

/-- The day that a text stands for. -/
def readDate? (s : String) : Option Date :=
  readDay? s.toList

end IssueQuery.Iso
