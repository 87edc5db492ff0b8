import EventBroker.Http.Form
import EventBroker.Http.Message

/-!
Messages as they stand on a connection: a first line, the headers, a blank line, and a
body. The headers tell how the body ends: after a length given beforehand, after an
empty piece where every piece has its size in front, or with the connection.
-/
namespace EventBroker.Http

namespace Wire

def lineBreak : Bytes := [13, 10]

def splitHead (line : Bytes) (done : List Bytes) : Bytes → Option (List Bytes × Bytes)
  | [] => none
  | 13 :: 10 :: rest =>
    if line.isEmpty then some (done.reverse, rest) else splitHead [] (line.reverse :: done) rest
  | b :: rest => splitHead (b :: line) done rest

def splitHead? (s : Bytes) : Option (List Bytes × Bytes) := splitHead [] [] s

def isBlank (b : UInt8) : Bool := b == 32 || b == 9

def trim (s : Bytes) : Bytes := ((s.dropWhile isBlank).reverse.dropWhile isBlank).reverse

def readHeader? (line : Bytes) : Option Header :=
  match Bytes.cutAt (· == Bytes.colon) line with
  | (_, none) => none
  | (name, some value) => (Utf8.decode? name).map fun name => ⟨name.toLower, trim value⟩

def readHeaders? (lines : List Bytes) : Option Headers := lines.mapM readHeader?

def words (line : Bytes) : List String := (Text.partsBetween Bytes.space line).map Utf8.lenient

def writeHeaders (hs : Headers) : Bytes :=
  hs.flatMap fun h => Bytes.ofString h.name ++ Bytes.colon :: Bytes.space :: h.value ++ lineBreak

def writeHead (first : String) (hs : Headers) : Bytes :=
  Bytes.ofString first ++ lineBreak ++ writeHeaders hs ++ lineBreak

def version : String := "HTTP/1.1"

def writePiece (s : Bytes) : Bytes :=
  Bytes.ofString (Hex.numeral s.length) ++ lineBreak ++ s ++ lineBreak

def lastPiece : Bytes := writePiece []

inductive Framing
  | sized (length : Nat)
  | pieces
  | untilClosed
  deriving Repr, DecidableEq

def Framing.ofHeaders (hs : Headers) : Framing :=
  if (hs.get? "transfer-encoding").any fun v => (Utf8.lenient v).toLower == "chunked" then .pieces
  else
    match (hs.get? Reply.contentLength).bind Decimal.word with
    | some n => .sized n
    | none => .untilClosed

/-- Where the reader of a body stands. In a size line and in a trailer the bytes read so far
are kept, newest first. -/
inductive Place
  | size (line : Bytes)
  | data (left : Nat)
  | dataEnd
  | trailer (line : Bytes)
  | sized (left : Nat)
  | toTheEnd
  | done
  deriving Repr, DecidableEq

namespace Place

def ofFraming : Framing → Place
  | .sized 0 => .done
  | .sized n => .sized n
  | .pieces => .size []
  | .untilClosed => .toTheEnd

def readSize (line : Bytes) : Nat :=
  let digits := (line.map fun b => Hex.value? b.toNat).takeWhile (·.isSome)
  digits.foldl (fun n v => 16 * n + v.getD 0) 0

def isEnd : Place → Bool
  | .toTheEnd => true
  | .done => true
  | _ => false

def step (p : Place) (b : UInt8) : Place × Option UInt8 :=
  match p with
  | .size line =>
    if b == 10 then
      match readSize line.reverse with
      | 0 => (.trailer [], none)
      | n => (.data n, none)
    else if b == 13 then (.size line, none)
    else (.size (b :: line), none)
  | .data left => (if left ≤ 1 then .dataEnd else .data (left - 1), some b)
  | .dataEnd => (if b == 10 then .size [] else .dataEnd, none)
  | .trailer line =>
    if b == 10 then (if line.isEmpty then .done else .trailer [], none)
    else if b == 13 then (.trailer line, none)
    else (.trailer (b :: line), none)
  | .sized left => (if left ≤ 1 then .done else .sized (left - 1), some b)
  | .toTheEnd => (.toTheEnd, some b)
  | .done => (.done, none)

def feed (p : Place) (s : Bytes) : Place × Bytes :=
  let (p, body) := s.foldl (fun (p, body) b =>
    match p.step b with
    | (p, none) => (p, body)
    | (p, some b) => (p, b :: body)) (p, [])
  (p, body.reverse)

end Place

end Wire

open Wire

def Request.write (r : Request) (host : String) : Bytes :=
  writeHead (r.method ++ " " ++ r.target ++ " " ++ version)
    (⟨"host", Bytes.ofString host⟩ :: r.headers)

def Request.readHead? (lines : List Bytes) : Option Request := do
  match words (lines.headD []) with
  | [method, target, _] => return { method, target, headers := ← readHeaders? (lines.drop 1) }
  | _ => none

def Reply.reason (status : Nat) : String :=
  match status with
  | 200 => "OK"
  | 202 => "Accepted"
  | 400 => "Bad Request"
  | 404 => "Not Found"
  | 405 => "Method Not Allowed"
  | 413 => "Payload Too Large"
  | _ => "Internal Server Error"

def Reply.firstLine (status : Nat) : String :=
  version ++ " " ++ toString status ++ " " ++ Reply.reason status

def Reply.write (r : Reply) : Bytes := writeHead (Reply.firstLine r.status) r.headers ++ r.body

def Reply.writeOpen (r : Reply) : Bytes :=
  writeHead (Reply.firstLine r.status)
    (r.headers ++ [⟨"transfer-encoding", Bytes.ofString "chunked"⟩])

def Reply.readHead? (lines : List Bytes) : Option (Nat × Headers) := do
  match words (lines.headD []) with
  | _ :: status :: _ =>
    return (← Decimal.word (Bytes.ofString status), ← readHeaders? (lines.drop 1))
  | _ => none

end EventBroker.Http
