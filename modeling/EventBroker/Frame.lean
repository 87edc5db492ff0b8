import EventBroker.Base64
import EventBroker.Event
import EventBroker.Text.Decimal

/-!
The wire form of an event: a frame is a row of `name: value` lines closed by a
blank line. Values that hold line breaks are cut into several lines of one name,
except ids and event names, which lose their breaks. The field names are the
bytes of `id`, `event`, `data` and `retry`; a comment is a field without a name.
-/
namespace EventBroker.Frame

open Bytes

def idField : Bytes := [105, 100]
def nameField : Bytes := [101, 118, 101, 110, 116]
def dataField : Bytes := [100, 97, 116, 97]
def retryField : Bytes := [114, 101, 116, 114, 121]

/-- The lines that begin at some place of a text: the rest of the line there, the
lines after it, and whether a line feed stands there. -/
structure Lines where
  first : Bytes := []
  later : List Bytes := []
  atLineFeed : Bool := false
  deriving Repr, DecidableEq

/-- Puts a byte in front. A carriage return before a line feed makes one break with it. -/
def Lines.cons (b : UInt8) (s : Lines) : Lines :=
  if b == lineFeed then ⟨[], s.first :: s.later, true⟩
  else if b == carriageReturn then
    if s.atLineFeed then ⟨s.first, s.later, false⟩ else ⟨[], s.first :: s.later, false⟩
  else ⟨b :: s.first, s.later, false⟩

def Lines.ofBytes (s : Bytes) : Lines := s.foldr Lines.cons {}

/-- The lines of a text cut at each line feed, carriage return or pair of both; an empty
text has none, and a break at the end leaves an empty last line. -/
def lines (s : Bytes) : List Bytes :=
  if s.isEmpty then []
  else
    let cut := Lines.ofBytes s
    cut.first :: cut.later

def singleLine (s : Bytes) : Bytes := s.filter fun b => !isTerminator b

def field (name value : Bytes) : Bytes := name ++ colon :: space :: value ++ [lineFeed]

def fieldLines (name : Bytes) (values : List Bytes) : Bytes := values.flatMap (field name)

def dataLines (base64 : Bool) (e : Event) : List Bytes :=
  if base64 && e.hasData then [Base64.encode e.data] else lines e.data

def encode (base64 : Bool) (e : Event) : Bytes :=
  fieldLines [] (lines e.comment)
    ++ (if e.id.isEmpty then [] else field idField (singleLine e.id))
    ++ (if e.name.isEmpty then [] else field nameField (singleLine e.name))
    ++ (match e.retry with
        | none => []
        | some delay => field retryField (Decimal.encode delay.toMillis))
    ++ fieldLines dataField (dataLines base64 e)
    ++ [lineFeed]

def keepAlive : Bytes := [colon, lineFeed, lineFeed]

end EventBroker.Frame
