import EventBroker.Url.Host

/-!
Absolute URLs. Reading one brings it into its normal form: a scheme and a host in
small letters, no default port, a path without dot segments, and percent escapes for
every character that needs one.
-/
namespace EventBroker

inductive UrlPath
  | text (s : List Char)
  | segments (parts : List (List Char))
  deriving Repr, DecidableEq

/-- User and password are kept with their escapes. -/
structure Url where
  scheme : String
  user : String := ""
  password : Option String := none
  host : Option String := none
  port : Option Nat := none
  path : UrlPath := .segments []
  query : Option String := none
  fragment : Option String := none
  deriving Repr, DecidableEq

namespace Url

def fragmentMarks : List Char := [' ', '"', '<', '>', '\x60']
def pathMarks : List Char := fragmentMarks ++ ['#', '?', '\x7b', '\x7d']
def userMarks : List Char := pathMarks ++ ['/', ':', ';', '=', '@', '[', '\\', ']', '^', '|']
def queryMarks : List Char := [' ', '"', '#', '<', '>']
def specialQueryMarks : List Char := '\'' :: queryMarks

def specialSchemes : List (String × Option Nat) :=
  [("http", some 80), ("https", some 443), ("ws", some 80), ("wss", some 443), ("ftp", some 21),
    ("file", none)]

def isSpecial (scheme : String) : Bool := specialSchemes.any (·.1 == scheme)

def defaultPort (scheme : String) : Option Nat := (specialSchemes.lookup scheme).getD none

def isSchemeChar (c : Char) : Bool := c.isAlphanum || c == '+' || c == '-' || c == '.'

def readScheme (s : List Char) : Option (String × List Char) :=
  match s.takeWhile isSchemeChar, s.dropWhile isSchemeChar with
  | first :: name, ':' :: rest =>
    if first.isAlpha then some ((String.ofList (first :: name)).toLower, rest) else none
  | _, _ => none

/-- Cuts white space and control characters from both ends and takes tabs and line breaks out. -/
def tidy (s : String) : List Char :=
  let isEdge (c : Char) : Bool := c.toNat ≤ 32
  let trimmed := ((s.toList.dropWhile isEdge).reverse.dropWhile isEdge).reverse
  trimmed.filter fun c => c != '\t' && c != '\n' && c != '\r'

def isSlash (special : Bool) (c : Char) : Bool := c == '/' || special && c == '\\'

def endsAuthority (special : Bool) (c : Char) : Bool := isSlash special c || c == '?' || c == '#'

def isDotSegment (s : List Char) : Bool := [".", "%2e"].contains (String.ofList s).toLower

def isDoubleDotSegment (s : List Char) : Bool :=
  ["..", "%2e.", ".%2e", "%2e%2e"].contains (String.ofList s).toLower

/-- Whether a segment names a drive, by a letter and a colon or a bar. -/
def isDrive : List Char → Bool
  | [c, mark] => c.isAlpha && (mark == ':' || mark == '|')
  | _ => false

def beginsWithDrive (s : List Char) : Bool := isDrive (s.takeWhile (· != '\\'))

/-- The way up from the last of the segments in `done`; no way leads out of a drive. -/
def parent : List (List Char) → List (List Char)
  | [] => []
  | last :: before => if beginsWithDrive last then last :: before else before

/-- The segments of a path with its dot segments worked off, those in `done` newest first. A
dot segment at the end leaves an empty segment. -/
def normalSegments (write : List (List Char) → List Char → List Char) (done : List (List Char)) :
    List (List Char) → List (List Char)
  | [] => done.reverse
  | part :: rest =>
    let next :=
      if isDoubleDotSegment part then if rest.isEmpty then [] :: parent done else parent done
      else if isDotSegment part then if rest.isEmpty then [] :: done else done
      else write done (escapeAll pathMarks part) :: done
    normalSegments write next rest

def pathParts (special : Bool) (s : List Char) : List (List Char) :=
  Text.partsBetween '/' (s.map fun c => if isSlash special c then '/' else c)

def dropSlash (special : Bool) : List Char → List Char
  | [] => []
  | c :: rest => if isSlash special c then rest else c :: rest

def readPath (special : Bool) (s : List Char) : UrlPath :=
  if s.isEmpty && !special then .segments []
  else .segments (normalSegments (fun _ part => part) [] (pathParts special (dropSlash special s)))

def fileSegments (parts : List (List Char)) : List (List Char) :=
  normalSegments (fun done part =>
    if done.isEmpty && isDrive part then part.take 1 ++ [':'] else part) [] parts

/-- Leaves out the empty segments that a path begins with, all but the last one. -/
def dropEmpty : List (List Char) → List (List Char)
  | [] :: part :: rest => dropEmpty (part :: rest)
  | parts => parts

/-- User and password, cut at the first colon. An empty password is none. -/
def readUser (s : List Char) : String × Option String :=
  let user := s.takeWhile (· != ':')
  let password := (s.dropWhile (· != ':')).drop 1
  let write (part : List Char) := String.ofList (escapeAll userMarks part)
  (write user, if password.isEmpty then none else some (write password))

def splitUser (s : List Char) : Option (List Char) × List Char :=
  let reversed := s.reverse
  match reversed.dropWhile (· != '@') with
  | [] => (none, s)
  | _ :: before => (some before.reverse, (reversed.takeWhile (· != '@')).reverse)

/-- The host, and the text after its colon if there is one. A colon in brackets belongs to
the host. -/
def splitPort (inside : Bool) (host : List Char) : List Char → List Char × Option (List Char)
  | [] => (host.reverse, none)
  | c :: rest =>
    if c = ':' ∧ !inside then (host.reverse, some rest)
    else splitPort (c == '[' || inside && c != ']') (c :: host) rest

/-- A port; none for an empty text and for the default of the scheme. -/
def readPort (scheme : String) (s : List Char) : Except Fault (Option Nat) :=
  match Net.number? 10 s with
  | none => .error .port
  | some n =>
    if 65536 ≤ n then .error .port
    else .ok (if s.isEmpty ∨ defaultPort scheme = some n then none else some n)

/-- The authority and the path of a URL that has both; `ends` tells whether nothing follows
them. A port ends at a backslash under any scheme. -/
def readAuthority (url : Url) (ends : Bool) (authority path : List Char) : Except Fault Url := do
  let special := isSpecial url.scheme
  let (login, rest) := splitUser authority
  if login = some [] ∧ rest.isEmpty ∧ !(ends ∧ path.isEmpty) then throw .emptyHost
  let (user, password) := (login.map readUser).getD ("", none)
  let (host, port) := splitPort false [] rest
  if host.isEmpty ∧ (special ∨ port.isSome ∨ user ≠ "" ∨ password.isSome) then throw .emptyHost
  let host ← if special then readHost host else readOpaqueHost host
  let port := port.getD []
  let digits := port.takeWhile (· != '\\')
  return { url with
    user, password, host := some host, port := ← readPort url.scheme digits
    path := readPath special (port.drop digits.length ++ path) }

def readFileHost (s : List Char) : Except Fault String := do
  if s.isEmpty then return ""
  let host ← readHost s
  return if host == "localhost" then "" else host

/-- A file by its host and the parts of its path. The drive of a path stands for the host. -/
def ofFile (url : Url) (host : String) (parts : List (List Char)) : Url :=
  let segments := fileSegments parts
  { url with
    host := some (if segments.head?.any isDrive then "" else host)
    path := .segments (dropEmpty segments) }

def readFile (url : Url) (authority path : List Char) : Except Fault Url :=
  if isDrive authority then .ok (ofFile url "" (pathParts true (authority ++ path)))
  else do
    let host ← readFileHost authority
    let inner := if host.isEmpty then path else dropSlash true path
    return ofFile url host (pathParts true inner)

def cutAtMark (mark : Char) (s : List Char) : List Char × Option (List Char) :=
  match s.dropWhile (· != mark) with
  | [] => (s, none)
  | _ :: rest => (s.takeWhile (· != mark), some rest)

/-- What follows the scheme, less its query and fragment; `ends` tells whether it has none. -/
def readHierarchy (url : Url) (ends : Bool) (s : List Char) : Except Fault Url :=
  let special := isSpecial url.scheme
  let inside (c : Char) := !endsAuthority special c
  let cut (s : List Char) := (s.takeWhile inside, s.dropWhile inside)
  if url.scheme = "file" then
    match s with
    | a :: b :: rest =>
      if isSlash true a && isSlash true b then
        let (authority, path) := cut rest
        readFile url authority path
      else .ok (ofFile url "" (pathParts true (dropSlash true s)))
    | _ => .ok (ofFile url "" (pathParts true (dropSlash true s)))
  else if special then
    let (authority, path) := cut (s.dropWhile (isSlash true))
    readAuthority url ends authority path
  else
    match s with
    | '/' :: '/' :: rest =>
      let (authority, path) := cut rest
      readAuthority url ends authority path
    | '/' :: _ => .ok { url with path := readPath false s }
    | _ => .ok { url with path := .text (escapeAll [] s) }

def parse (s : String) : Except Fault Url :=
  match readScheme (tidy s) with
  | none => .error .relative
  | some (scheme, rest) => do
    let (rest, fragment) := cutAtMark '#' rest
    let (rest, query) := cutAtMark '?' rest
    let marks := if isSpecial scheme then specialQueryMarks else queryMarks
    let ends := query.isNone && fragment.isNone
    let url ← readHierarchy { scheme } ends rest
    return { url with
      query := query.map fun q => String.ofList (escapeAll marks q)
      fragment := fragment.map fun f => String.ofList (escapeAll fragmentMarks f) }

def UrlPath.write : UrlPath → String
  | .text s => String.ofList s
  | .segments parts => String.ofList (parts.flatMap ('/' :: ·))

def writeUser (url : Url) : String :=
  match url.user, url.password with
  | "", none => ""
  | user, none => user ++ "@"
  | user, some password => user ++ ":" ++ password ++ "@"

def writePort : Option Nat → String
  | none => ""
  | some n => ":" ++ toString n

/-- The authority with its two slashes. A path that would look like one gets a dot segment
in front. -/
def writeAuthority (url : Url) : String :=
  match url.host, url.path with
  | some host, _ => "//" ++ writeUser url ++ host ++ writePort url.port
  | none, .segments ([] :: _ :: _) => "/."
  | none, _ => ""

def writeQuery : Option String → String
  | none => ""
  | some q => "?" ++ q

def writeFragment : Option String → String
  | none => ""
  | some f => "#" ++ f

def toText (url : Url) : String :=
  url.scheme ++ ":" ++ writeAuthority url ++ UrlPath.write url.path ++ writeQuery url.query
    ++ writeFragment url.fragment

def target (url : Url) : String :=
  let path := UrlPath.write url.path
  (if path.isEmpty then "/" else path) ++ writeQuery url.query

def addPair (url : Url) (name value : String) : Url :=
  let pair := Utf8.lenient (Http.Form.writePair name value)
  { url with query := some (match url.query with
    | none => pair
    | some q => if q.isEmpty then pair else q ++ "&" ++ pair) }

end Url

end EventBroker
