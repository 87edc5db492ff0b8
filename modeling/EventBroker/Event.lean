import EventBroker.Duration
import EventBroker.Text.Utf8

/-!
The unit carried on a stream. All text fields are opaque bytes, and an empty id
means that none is assigned yet. An event without data is a control frame, which
no consumer gets to see.
-/
namespace EventBroker

structure Event where
  id : Bytes := []
  name : Bytes := []
  data : Bytes := []
  comment : Bytes := []
  retry : Option Duration := none
  deriving Repr, DecidableEq

namespace Event

def hasData (e : Event) : Bool := !e.data.isEmpty

def idText (e : Event) : String := Utf8.lenient e.id

/-- The line shown to a reader: the id in brackets, the name with a colon, the data;
an empty id or name is left out. -/
def line (e : Event) : String :=
  let id := if e.id.isEmpty then "" else "[" ++ e.idText ++ "] "
  let name := if e.name.isEmpty then "" else Utf8.lenient e.name ++ ": "
  id ++ name ++ Utf8.lenient e.data

end Event

end EventBroker
