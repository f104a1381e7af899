import IssueQuery.Query.Field
import IssueQuery.Text.Digit

/-!
# Arguments of the command

The command takes a query and switches.  A switch has a long spelling, which may be cut short as
long as no other switch begins in the same way, and perhaps a short one of a single letter.  The
value of a switch follows it or is attached to it, and switches of a single letter without values
may be written together with others.  Behind `--` there are no more switches.
-/

namespace IssueQuery.Command

/-- A switch of the command. -/
inductive Switch where
  | help
  | kind
  | project
  | records
  | validate
  | config
  | output
  | verbose
  deriving DecidableEq

namespace Switch

/-- All switches by their spellings. -/
def spellings : List (String × Switch) := [
  ("-h", help),
  ("--help", help),
  ("-t", kind),
  ("--type", kind),
  ("-p", project),
  ("--project", project),
  ("--records", records),
  ("--validate", validate),
  ("-c", config),
  ("--config", config),
  ("-o", output),
  ("--output", output),
  ("-v", verbose),
  ("--verbose", verbose)]

/-- Whether a switch has a value. -/
def hasValue : Switch → Bool
  | help | validate | verbose => false
  | kind | project | records | config | output => true

/-- The switch with a given spelling. -/
def ofSpelling? (cs : List Char) : Option Switch :=
  spellings.lookup (String.ofList cs)

/-- The switch with a short spelling of a given letter. -/
def ofLetter? (c : Char) : Option Switch :=
  ofSpelling? ['-', c]

/-- The switches whose spellings begin with a given text. -/
def beginningWith (cs : List Char) : List Switch :=
  (spellings.filter fun s => cs.isPrefixOf s.1.toList).map (·.2)

end Switch

/-- A switch as it is written. -/
structure WrittenSwitch where
  switch : Switch
  /-- What is attached to it. -/
  attached : Option (List Char)
  /-- Whether what is attached to it follows a single letter, so that it can be more letters. -/
  extensible : Bool
  deriving DecidableEq

/-- What an argument of the command is. -/
inductive Piece where
  | word (s : String)
  /-- The mark behind which there are no more switches. -/
  | separator
  | switch (s : WrittenSwitch)
  /-- What has the form of a switch but is none. -/
  | unknown
  deriving DecidableEq

/-- Why arguments are refused. -/
inductive Misuse where
  /-- A cut spelling stands for several switches. -/
  | ambiguous
  /-- A switch lacks its value. -/
  | missingValue
  /-- Something is attached to a switch that has no value. -/
  | uselessValue
  /-- There is no such kind of records. -/
  | unknownKind
  | missingQuery
  /-- There are arguments that mean nothing. -/
  | unrecognized
  deriving DecidableEq

/-- Whether a text is a negative number, which is no switch. -/
def isNegativeNumber (cs : List Char) : Bool :=
  match cs with
  | '-' :: rest =>
    let (whole, fraction) := (rest.takeWhile Text.isDecimal, rest.dropWhile Text.isDecimal)
    match fraction with
    | [] => !whole.isEmpty
    | '.' :: ds => !ds.isEmpty && ds.all Text.isDecimal
    | _ => false
  | _ => false

/-- A text in front of the first `=` in it, and what follows that. -/
def splitAtEquals (cs : List Char) : List Char × Option (List Char) :=
  match cs.dropWhile (· ≠ '=') with
  | _ :: rest => (cs.takeWhile (· ≠ '='), some rest)
  | [] => (cs, none)

/-- The switches that an argument may stand for if it does not spell one in full. -/
def abbreviated (cs : List Char) : List WrittenSwitch :=
  match cs with
  | '-' :: '-' :: _ =>
    let (spelling, attached) := splitAtEquals cs
    (Switch.beginningWith spelling).map fun switch => { switch, attached, extensible := false }
  | '-' :: letter :: attached =>
    match Switch.ofLetter? letter with
    | some switch => [{ switch, attached := some attached, extensible := true }]
    | none => []
  | _ => []

/-- What an argument is if it is spelled in full, with or without something attached. -/
def spelledOut? (cs : List Char) : Option WrittenSwitch :=
  match Switch.ofSpelling? cs with
  | some switch => some { switch, attached := none, extensible := false }
  | none =>
    match splitAtEquals cs with
    | (spelling, some attached) =>
      (Switch.ofSpelling? spelling).map fun switch =>
        { switch, attached := some attached, extensible := false }
    | (_, none) => none

/-- What an argument in front of the separator is. -/
def Piece.ofArgument (s : String) : Except Misuse Piece :=
  let cs := s.toList
  match cs with
  | '-' :: _ :: _ =>
    match spelledOut? cs with
    | some written => .ok (.switch written)
    | none =>
      match abbreviated cs with
      | [written] => .ok (.switch written)
      | _ :: _ :: _ => .error .ambiguous
      | [] => .ok (if isNegativeNumber cs || cs.contains ' ' then .word s else .unknown)
  | _ => .ok (.word s)

/-- What the arguments are. -/
def Piece.ofArguments : List String → Except Misuse (List Piece)
  | [] => .ok []
  | s :: rest =>
    if s = "--" then .ok (.separator :: rest.map .word)
    else do
      let piece ← ofArgument s
      return piece :: (← ofArguments rest)

/-- What the arguments ask for. -/
structure Arguments where
  query : Option String := none
  kind : EntityKind := .issue
  project : Option String := none
  records : Option String := none
  validate : Bool := false
  config : Option String := none
  output : Option String := none
  verbose : Bool := false
  deriving DecidableEq

namespace Arguments

/-- Arguments with a switch and its value added; nothing is left to do if help is asked for. -/
def addSwitch (a : Arguments) (s : Switch) (value : String) : Except Misuse (Option Arguments) :=
  match s with
  | .help => .ok none
  | .kind =>
    match EntityKind.ofPlural? value with
    | some kind => .ok (some { a with kind })
    | none => .error .unknownKind
  | .project => .ok (some { a with project := some value })
  | .records => .ok (some { a with records := some value })
  | .validate => .ok (some { a with validate := true })
  | .config => .ok (some { a with config := some value })
  | .output => .ok (some { a with output := some value })
  | .verbose => .ok (some { a with verbose := true })

/-- Arguments with several switches added. -/
def addSwitches (a : Arguments) : List (Switch × String) → Except Misuse (Option Arguments)
  | [] => .ok (some a)
  | (s, value) :: rest => do
    match ← a.addSwitch s value with
    | some a => a.addSwitches rest
    | none => return none

end Arguments

/-- The switches that an argument stands for, and whether it goes on with what is none.  The last
switch may lack its value so far. -/
abbrev Expansion := List (Switch × Option String) × Bool

/-- What follows the letter of a switch with a value, which is its value if it is not empty. -/
def attachedValue? : List Char → Option String
  | [] => none
  | '=' :: cs => some (String.ofList cs)
  | cs => some (String.ofList cs)

/-- The switches whose letters follow that of a switch without a value. -/
def joined : List Char → Except Misuse Expansion
  | [] => .ok ([], false)
  | letter :: attached =>
    if letter = '-' ∨ letter = '=' then .error .uselessValue
    else
      match Switch.ofLetter? letter with
      | none => .ok ([], true)
      | some s =>
        if s.hasValue then .ok ([(s, attachedValue? attached)], false)
        else do
          let (switches, strange) ← joined attached
          return ((s, some "") :: switches, strange)

/-- The switches that a written one stands for. -/
def WrittenSwitch.expand (w : WrittenSwitch) : Except Misuse Expansion :=
  match w.switch.hasValue, w.attached with
  | true, attached => .ok ([(w.switch, attached.map String.ofList)], false)
  | false, none => .ok ([(w.switch, some "")], false)
  | false, some attached =>
    if w.extensible then do
      let (switches, strange) ← joined attached
      return ((w.switch, some "") :: switches, strange)
    else .error .uselessValue

/-- The switches of which each has its value: the one that lacks it has `following` for it, and
whether that is used. -/
def supplied (following : Option String) :
    List (Switch × Option String) → Except Misuse (List (Switch × String) × Bool)
  | [] => .ok ([], false)
  | (s, some value) :: rest => do
    let (switches, used) ← supplied following rest
    return ((s, value) :: switches, used)
  | (s, none) :: rest =>
    match following with
    | none => .error .missingValue
    | some value => do
      let (switches, _) ← supplied following rest
      return ((s, value) :: switches, true)

/-- The word at the front of some pieces. -/
def nextWord? : List Piece → Option String
  | .word s :: _ => some s
  | _ => none

/-- Reads the pieces behind those that made up `a`; `strange` tells that some of these mean
nothing.  The pieces from which a value has been taken are fewer, so `fuel` is their number. -/
def readPieces (fuel : Nat) (a : Arguments) (strange : Bool) (pieces : List Piece) :
    Except Misuse (Option Arguments) :=
  match fuel, pieces with
  | _, [] =>
    if a.query.isNone then .error .missingQuery
    else if strange then .error .unrecognized
    else .ok (some a)
  | 0, _ :: _ => .error .unrecognized
  | fuel + 1, piece :: rest =>
    match piece with
    | .word s =>
      if a.query.isSome then readPieces fuel a true rest
      else
        let rest :=
          match rest with
          | .separator :: rest => rest
          | _ => rest
        readPieces fuel { a with query := some s } strange rest
    | .separator => readPieces fuel a (strange || a.query.isSome) rest
    | .unknown => readPieces fuel a true rest
    | .switch w => do
      let (switches, more) ← w.expand
      let (switches, used) ← supplied (nextWord? rest) switches
      match ← a.addSwitches switches with
      | none => return none
      | some a => readPieces fuel a (strange || more) (if used then rest.drop 1 else rest)

/-- Reads the arguments of the command; there are none left if help is asked for. -/
def Arguments.read (arguments : List String) : Except Misuse (Option Arguments) := do
  let pieces ← Piece.ofArguments arguments
  readPieces pieces.length {} false pieces

end IssueQuery.Command
