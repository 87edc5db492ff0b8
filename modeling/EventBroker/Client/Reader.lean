import EventBroker.Client.Peer
import EventBroker.Duration.Seconds
import EventBroker.Frame.Decoder

/-!
Reading the body of a response event by event. A chunk is taken from the body when
all events of the chunks before it have been handed out.
-/
namespace EventBroker

inductive ClientFault
  | transport
  | status (code : Nat)
  | protocol (cause : Frame.Fault)
  | delay (cause : Duration.SecondsFault)
  deriving Repr, DecidableEq

def ClientFault.message : ClientFault → String
  | .transport => "http error"
  | .status code => s!"server responded with status {code}"
  | .protocol cause => "protocol error: " ++ cause.message
  | .delay cause => cause.message

structure Reader where
  decoder : Frame.Decoder
  ready : List Event := []
  chunks : List Bytes := []
  ending : Ending := .clean
  deriving Repr, DecidableEq

/-- What a reader finds next. `silence` means that nothing more arrives for now. -/
inductive Next
  | event (e : Event)
  | ended
  | failed (fault : ClientFault)
  | silence
  deriving Repr, DecidableEq

def Ending.next : Ending → Next
  | .clean => .ended
  | .broken => .failed .transport
  | .silent => .silence

namespace Reader

def pull (ending : Ending) (d : Frame.Decoder) : List Bytes → Reader × Next
  | [] => ({ decoder := d, ending }, ending.next)
  | chunk :: rest =>
    match d.decode chunk with
    | (d, .error fault) => ({ decoder := d, chunks := rest, ending }, .failed (.protocol fault))
    | (d, .ok []) => pull ending d rest
    | (d, .ok (e :: ready)) => ({ decoder := d, ready, chunks := rest, ending }, .event e)

def next (r : Reader) : Reader × Next :=
  match r.ready with
  | e :: ready => ({ r with ready }, .event e)
  | [] => pull r.ending r.decoder r.chunks

def remaining (r : Reader) : Nat := r.ready.length + r.chunks.flatten.length

end Reader

end EventBroker
