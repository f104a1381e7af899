/-!
# Addresses

The parts of the address of a resource that a request is sent to, and how a path is added to the
address of a service.
-/

namespace IssueQuery.Http

/-- Where a request is sent to. -/
structure Address where
  /-- How to talk to the host, in lower case. -/
  scheme : String
  /-- The name of the host in lower case. -/
  host : String
  path : String
  deriving DecidableEq

namespace Address

/-- Takes the characters in front of the first one for which `p` holds off the front. -/
def takeUntil (p : Char → Bool) (cs : List Char) : List Char × List Char :=
  (cs.takeWhile (!p ·), cs.dropWhile (!p ·))

/-- Takes a scheme and its colon off the front, if there is one. -/
def takeScheme (cs : List Char) : List Char × List Char :=
  let isPart (c : Char) : Bool := c.isAlphanum || c = '+' || c = '-' || c = '.'
  match takeUntil (!isPart ·) cs with
  | (first :: more, ':' :: rest) => if first.isAlpha then (first :: more, rest) else ([], cs)
  | _ => ([], cs)

/-- Takes an authority off the front, if there is one. -/
def takeAuthority (cs : List Char) : List Char × List Char :=
  match cs with
  | '/' :: '/' :: rest => takeUntil (fun c => c = '/' || c = '?' || c = '#') rest
  | _ => ([], cs)

/-- The host of an authority, which may have a user in front and a number behind. -/
def hostOf (authority : List Char) : List Char :=
  let named :=
    match takeUntil (· = '@') authority with
    | (_, '@' :: rest) => rest
    | _ => authority
  match named with
  | '[' :: rest => (takeUntil (· = ']') rest).1
  | _ => (takeUntil (· = ':') named).1

/-- The parts of a written address. -/
def read (s : String) : Address :=
  let (scheme, rest) := takeScheme s.toList
  let (authority, rest) := takeAuthority rest
  let path := (takeUntil (fun c => c = '?' || c = '#') rest).1
  { scheme := String.ofList (scheme.map Char.toLower)
    host := String.ofList ((hostOf authority).map Char.toLower)
    path := if path.isEmpty then "/" else String.ofList path }

/-- A path with a slash at its end. -/
def closePath (path : List Char) : List Char :=
  if path.getLast? = some '/' then path else path ++ ['/']

/-- The address of a path below another address; an address that names its host stands for
itself. -/
def below (base : Address) (path : String) : Address :=
  let a := read path
  if !a.scheme.isEmpty && !a.host.isEmpty then a
  else
    let steps := a.path.toList.dropWhile (· = '/')
    { base with path := String.ofList (closePath base.path.toList ++ steps) }

end Address

end IssueQuery.Http
