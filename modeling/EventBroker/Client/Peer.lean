import EventBroker.Http.Message

/-!
The other side of a client's connections: the replies that it will give, one per
request and in order, and the requests that it has received. A peer that cannot be
reached receives nothing, and one that has run out of replies refuses every request.
-/
namespace EventBroker

inductive Ending
  | clean
  | broken
  | silent
  deriving Repr, DecidableEq

structure Response where
  status : Nat := 200
  chunks : List Bytes := []
  ending : Ending := .clean
  deriving Repr, DecidableEq

namespace Response

def isSuccess (r : Response) : Bool := 200 ≤ r.status && r.status < 300

def isBodiless (r : Response) : Bool := r.status == 204 || r.status == 304

/-- The chunks that arrive; an empty one does not. -/
def arriving (r : Response) : List Bytes :=
  if r.isBodiless then [] else r.chunks.filter (!·.isEmpty)

def arrivingEnd (r : Response) : Ending := if r.isBodiless then .clean else r.ending

end Response

inductive Answer
  | response (r : Response)
  | refusal
  deriving Repr, DecidableEq

structure Peer where
  reachable : Bool := true
  script : List Answer := []
  received : List Http.Request := []
  deriving Repr, DecidableEq

namespace Peer

def unreachable : Peer := { reachable := false }

def send (p : Peer) (r : Http.Request) : Peer × Option Response :=
  if !p.reachable then (p, none)
  else
    let p := { p with received := p.received ++ [r] }
    match p.script with
    | [] => (p, none)
    | .refusal :: rest => ({ p with script := rest }, none)
    | .response response :: rest => ({ p with script := rest }, some response)

end Peer

end EventBroker
