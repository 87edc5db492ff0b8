import EventBroker.Bytes
import EventBroker.Text.Parts
import EventBroker.Text.Quoted

/-!
Route patterns. A pattern is a path in which a part of a segment after a colon
captures the rest of that segment, and a last segment after a star captures the
whole rest of the path. A capture needs some text to be left, but it may be empty
where that begins with a slash.
-/
namespace EventBroker.Http

inductive Segment
  | literal (text : List Char)
  | capture (before : List Char)
  | rest
  deriving Repr, DecidableEq

inductive RouteFault
  | manyCaptures
  | namelessCapture
  | innerRest
  | overfull
  deriving Repr, DecidableEq

def RouteFault.message : RouteFault → String
  | .manyCaptures => "only one parameter is allowed per path segment"
  | .namelessCapture => "parameters must be registered with a name"
  | .innerRest => "catch-all parameters are only allowed at the end of a route"
  | .overfull => "too many route parameters"

/-- The report on a path that is no pattern. One with too many captures is not shown. -/
def RouteFault.report (f : RouteFault) (path : String) : String :=
  match f with
  | .overfull => f.message
  | _ => "Invalid route " ++ Quoted.encode path ++ ": " ++ f.message

def segments (path : String) : List (List Char) := (Text.partsBetween '/' path.toList).drop 1

def isCaptureMark (c : Char) : Bool := c == ':' || c == '*'

def captureLimit : Nat := 26

/-- Checks how the captures of segments are named, and counts those of single segments; `count`
of them stand before. -/
def checkNames (count : Nat) : List (List Char) → Except RouteFault Unit
  | [] => .ok ()
  | text :: rest =>
    match text.dropWhile (fun c => !isCaptureMark c) with
    | [] => checkNames count rest
    | mark :: name =>
      if name.any isCaptureMark then .error .manyCaptures
      else if name.isEmpty then .error .namelessCapture
      else if mark = '*' then checkNames count rest
      else if captureLimit ≤ count + 1 then .error .overfull
      else checkNames (count + 1) rest

/-- A segment whose captures are well named; a star has to stand at its front. -/
def Segment.read? (text : List Char) : Option Segment :=
  let before := text.takeWhile fun c => !isCaptureMark c
  match text.dropWhile (fun c => !isCaptureMark c) with
  | [] => some (.literal text)
  | ':' :: _ => some (.capture before)
  | _ => if before.isEmpty then some .rest else none

abbrev Pattern := List Segment

def hasInnerRest : Pattern → Bool
  | [] => false
  | [_] => false
  | s :: rest => s == .rest || hasInnerRest rest

namespace Pattern

/-- Faults in the names of captures go before those in their places. -/
def read (path : String) : Except RouteFault Pattern := do
  checkNames 0 (segments path)
  match (segments path).mapM Segment.read? with
  | none => throw .innerRest
  | some pattern => if hasInnerRest pattern then throw .innerRest else return pattern

def after? (before s : List Char) : Option (List Char) :=
  if before.isPrefixOf s then some (s.drop before.length) else none

def matchesText : Pattern → List Char → Bool
  | [], s => s.isEmpty
  | .literal text :: pattern, s => (after? ('/' :: text) s).any (matchesText pattern)
  | .capture before :: pattern, s =>
    (after? ('/' :: before) s).any fun s =>
      !s.isEmpty && matchesText pattern (s.dropWhile (· != '/'))
  | .rest :: _, s => (after? ['/'] s).any (!·.isEmpty)

def matchesPath (p : Pattern) (path : String) : Bool := matchesText p path.toList

def beginning : Pattern → List Char
  | [] => []
  | .literal text :: pattern => '/' :: text ++ beginning pattern
  | .capture before :: _ => '/' :: before
  | .rest :: _ => ['/']

def capturesIn (p : Pattern) (path : String) : Bool :=
  let fixed := p.beginning
  fixed.length < path.length && fixed.isPrefixOf path.toList && p.any fun
    | .literal _ => false
    | _ => true

end Pattern

end EventBroker.Http
