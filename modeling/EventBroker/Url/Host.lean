import EventBroker.Http.Form
import EventBroker.Net.Ip
import EventBroker.Text.Utf8
import EventBroker.Url.Domain

/-!
Hosts of a URL: addresses of both versions, domains in their ASCII form, and, under
schemes of no special meaning, any text without delimiters.
-/
namespace EventBroker.Url

inductive Fault
  | emptyHost
  | domain
  | port
  | address4
  | address6
  | hostCharacter
  | relative
  deriving Repr, DecidableEq

def Fault.message : Fault → String
  | .emptyHost => "empty host"
  | .domain => "invalid international domain name"
  | .port => "invalid port number"
  | .address4 => "invalid IPv4 address"
  | .address6 => "invalid IPv6 address"
  | .hostCharacter => "invalid domain character"
  | .relative => "relative URL without a base"

def escape (c : Char) : List Char :=
  ((String.utf8EncodeChar c).flatMap Http.Form.percentEncode).map fun b => Char.ofNat b.toNat

def escapeAll (marks : List Char) (s : List Char) : List Char :=
  s.flatMap fun c => if c.toNat < 32 || 126 < c.toNat || marks.contains c then escape c else [c]

/-- A number in a domain that is read as an address; a sign of hexadecimals alone is zero. -/
def part4? (s : List Char) : Option Nat :=
  if s = ['0', 'x'] ∨ s = ['0', 'X'] then some 0 else Net.part? s

def labels (domain : List Char) : List (List Char) :=
  let parts := Text.partsBetween '.' domain
  if parts.getLast? = some [] then parts.dropLast else parts

/-- Whether a domain has to be read as an address because its last part is a number. -/
def endsInNumber (domain : List Char) : Bool :=
  match (labels domain).getLast? with
  | none => false
  | some last => !last.isEmpty && last.all Char.isDigit || (part4? last).isSome

def readAddress4 (domain : List Char) : Except Fault Nat :=
  match ((labels domain).mapM part4?).bind Net.ofParts? with
  | some n => .ok n
  | none => .error .address4

def readAddress6 (s : List Char) : Except Fault (List Nat) :=
  match Net.read6? s with
  | some groups => .ok groups
  | none => .error .address6

def readDomain (s : List Char) : Except Fault (List Char) :=
  match Utf8.decode? (Http.Form.percentDecode (Bytes.ofString (String.ofList s))) with
  | none => .error .domain
  | some text =>
    match Domain.toAscii? text.toList with
    | none => .error .domain
    | some domain => .ok domain

def bracketed? : List Char → Option (Except Fault (List Char))
  | '[' :: rest =>
    some (if rest.getLast? = some ']' then .ok rest.dropLast else .error .address6)
  | _ => none

def readHost (s : List Char) : Except Fault String :=
  match bracketed? s with
  | some inside => do return "[" ++ Net.write6 (← readAddress6 (← inside)) ++ "]"
  | none => do
    let domain ← readDomain s
    if domain.isEmpty then throw .emptyHost
    if endsInNumber domain then return Net.write4 (← readAddress4 domain)
    return String.ofList domain

def opaqueRefused : List Char := "\x00\t\n\r #/:<>?@[\\]^|".toList

def readOpaqueHost (s : List Char) : Except Fault String :=
  match bracketed? s with
  | some inside => do return "[" ++ Net.write6 (← readAddress6 (← inside)) ++ "]"
  | none =>
    if s.any opaqueRefused.contains then .error .hostCharacter
    else .ok (String.ofList (escapeAll [] s))

end EventBroker.Url
