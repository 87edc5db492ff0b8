import EventBroker.Http.Header
import EventBroker.Text.Decimal

/-!
Requests and replies of the broker's routes, apart from any connection that carries
them.
-/
namespace EventBroker.Http

structure Request where
  method : String := "GET"
  /-- What follows the method on the request line. -/
  target : String
  headers : Headers := []
  body : Bytes := []
  deriving Repr, DecidableEq

/-- The target without its fragment, cut at the first question mark. -/
def Request.splitTarget (r : Request) : List Char × Option (List Char) :=
  let target := r.target.toList.takeWhile (· != '#')
  match target.dropWhile (· != '?') with
  | [] => (target, none)
  | _ :: query => (target.takeWhile (· != '?'), some query)

def pathOf : List Char → List Char
  | '/' :: path => '/' :: path
  | target =>
    match target.dropWhile (· != ':') with
    | ':' :: '/' :: '/' :: authority =>
      match authority.dropWhile (· != '/') with
      | [] => ['/']
      | path => path
    | _ => target

def Request.path (r : Request) : String := String.ofList (pathOf r.splitTarget.1)

def Request.query (r : Request) : Bytes :=
  match r.splitTarget.2 with
  | none => []
  | some query => Bytes.ofString (String.ofList query)

/-- A reply; its body is complete unless a connection goes with it. -/
structure Reply where
  status : Nat
  headers : Headers := []
  body : Bytes := []
  deriving Repr, DecidableEq

namespace Reply

def contentLength : String := "content-length"

def withLength (r : Reply) : Reply :=
  if r.headers.any (·.name == contentLength) then r
  else { r with headers := r.headers.set contentLength (Decimal.encode r.body.length) }

def empty (status : Nat) : Reply := Reply.withLength { status }

def plain (status : Nat) (text : String) : Reply :=
  Reply.withLength
    { status, headers := [⟨"content-type", Bytes.ofString "text/plain; charset=utf-8"⟩],
      body := Bytes.ofString text }

def notAllowed (methods : String) : Reply :=
  Reply.withLength { status := 405, headers := [⟨"allow", Bytes.ofString methods⟩] }

def withoutBody (r : Reply) : Reply := { r with body := [] }

end Reply

end EventBroker.Http
