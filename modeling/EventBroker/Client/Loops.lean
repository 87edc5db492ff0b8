import EventBroker.Client

/-!
Background loops, which send the events of a connection on a channel. A loop takes an
event, waits for a place in the channel, and sends. It stops at the end of its
connection, when its channel has no receiver, or when it is cancelled through the
table; when it ends, all entries of its channel leave the table.
-/
namespace EventBroker

namespace Channel

def hasRoom (ch : Channel) : Bool := ch.queue.length + ch.reserved < ch.capacity

def reserve (ch : Channel) : Channel := { ch with reserved := ch.reserved + 1 }

def release (ch : Channel) : Channel := { ch with reserved := ch.reserved - 1 }

def send (ch : Channel) (e : Event) : Channel :=
  { ch with
    reserved := ch.reserved - 1
    queue := if ch.receiving then ch.queue ++ [e] else ch.queue }

def close (ch : Channel) : Channel := { ch with queue := [], receiving := false }

end Channel

namespace Client

def setLoop (c : Client) (id : Nat) (f : Loop → Loop) : Client :=
  { c with loops := c.loops.modify id f }

def setChannel (c : Client) (id : Nat) (f : Channel → Channel) : Client :=
  { c with channels := c.channels.modify id f }

def openChannel (c : Client) (capacity : Nat) : Client × Nat :=
  ({ c with channels := c.channels ++ [{ capacity }] }, c.channels.length)

def subscribeChannel (c : Client) (topic : String) (channel : Nat) :
    Client × Except ClientFault Unit :=
  match c.connect (some topic) with
  | (c, .error fault) => (c, .error fault)
  | (c, .ok reader) =>
    ({ c with
        loops := c.loops ++ [{ topic, channel, reader }]
        table := c.table ++ [(channel, c.loops.length)] }, .ok ())

def unsubscribe (c : Client) (channel : Nat) : Client :=
  let stopped := c.table.filter (·.1 == channel)
  let c := stopped.foldl (fun c entry => c.setLoop entry.2 fun l => { l with cancelled := true }) c
  { c with table := c.table.filter (·.1 != channel) }

/-- Ends a loop: its channel leaves the table, and the hook is called. -/
def endLoop (c : Client) (id : Nat) (l : Loop) : Client :=
  let c := c.setLoop id fun l => { l with phase := .ended }
  { c with table := c.table.filter (·.1 != l.channel) }.call (.disconnect l.topic)

/-- One step of a loop; `none` if it has to wait or has ended. -/
def stepLoop (c : Client) (id : Nat) : Option Client :=
  match c.loops[id]? with
  | none => none
  | some l =>
    match l.phase with
    | .ended => none
    | .reading =>
      if l.cancelled then some (c.endLoop id l)
      else
        match l.reader.next with
        | (_, .silence) => none
        | (_, .ended) => some (c.endLoop id l)
        | (_, .failed _) => some (c.endLoop id l)
        | (reader, .event e) =>
          let phase := if e.hasData then .holding e else .reading
          some ((c.noteRetry e).setLoop id fun l => { l with reader, phase })
    | .holding e =>
      if l.cancelled then some (c.endLoop id l)
      else
        match c.channels[l.channel]? with
        | none => some (c.endLoop id l)
        | some ch =>
          if !ch.receiving then some (c.endLoop id l)
          else if ch.hasRoom then
            let c := c.setChannel l.channel .reserve
            some (c.setLoop id fun l => { l with phase := .reserved e })
          else none
    | .reserved e =>
      if l.cancelled then some ((c.setChannel l.channel .release).endLoop id l)
      else
        let c := c.setChannel l.channel (·.send e)
        some ((c.noteDelivered e.id).setLoop id fun l => { l with phase := .reading })

def round (c : Client) : Client × Bool :=
  (List.range c.loops.length).foldl (fun (c, moved) id =>
    match c.stepLoop id with
    | some c => (c, true)
    | none => (c, moved)) (c, false)

def stepBound (c : Client) : Nat := c.loops.foldl (fun n l => n + (3 * l.reader.remaining + 4)) 0

def settleWithin : Nat → Client → Client
  | 0, c => c
  | fuel + 1, c =>
    match c.round with
    | (c, true) => settleWithin fuel c
    | (c, false) => c

def settle (c : Client) : Client := settleWithin c.stepBound c

def receive? (c : Client) (channel : Nat) : Option (Client × Event) :=
  match c.channels[channel]? with
  | some { queue := e :: rest, .. } =>
    some (c.setChannel channel fun ch => { ch with queue := rest }, e)
  | _ => none

/-- Receives up to `n` events, letting the loops run whenever the channel is empty. -/
def receiveMany (channel : Nat) : Nat → Client → Client × List Event
  | 0, c => (c, [])
  | n + 1, c =>
    let c := if (c.receive? channel).isSome then c else c.settle
    match c.receive? channel with
    | none => (c, [])
    | some (c, e) =>
      let (c, events) := receiveMany channel n c
      (c, e :: events)

def eventBound (c : Client) : Nat :=
  c.channels.foldl (fun n ch => n + ch.queue.length) 0
    + c.loops.foldl (fun n l => n + (l.reader.remaining + 1)) 0

def drain (c : Client) (channel : Nat) : Client × List Event := receiveMany channel c.eventBound c

def closeReceiver (c : Client) (channel : Nat) : Client := c.setChannel channel .close

end Client

end EventBroker
