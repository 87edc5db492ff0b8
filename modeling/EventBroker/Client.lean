import EventBroker.Base64
import EventBroker.Client.Reader
import EventBroker.Config
import EventBroker.Url

/-!
The subscriber's side. A client remembers the id of the last event that it delivered
and the delay that the server last suggested; each connection asks for what follows
that id. Reconnecting waits between connections and counts them from one again after
a connection that changed the remembered id.
-/
namespace EventBroker

inductive TopicCall
  | connect (topic : String)
  | disconnect (topic : String)
  deriving Repr, DecidableEq

/-- Where events are sent by a background loop. `reserved` counts the places that loops hold. -/
structure Channel where
  capacity : Nat
  queue : List Event := []
  reserved : Nat := 0
  receiving : Bool := true
  deriving Repr, DecidableEq

inductive Phase
  | reading
  | holding (e : Event)
  | reserved (e : Event)
  | ended
  deriving Repr, DecidableEq

structure Loop where
  topic : String
  channel : Nat
  reader : Reader
  cancelled : Bool := false
  phase : Phase := .reading
  deriving Repr, DecidableEq

/-- `channels` and `loops` list all that were ever made. `table` names the loops that can be
stopped through their channel, by the numbers of both. -/
structure Client where
  config : ClientConfig
  url : Url
  lastEventId : Bytes := []
  retryHint : Option Duration := none
  hooked : Bool := true
  calls : List TopicCall := []
  peer : Peer := .unreachable
  channels : List Channel := []
  loops : List Loop := []
  table : List (Nat × Nat) := []

/-- How a call that reads a stream comes out; `waiting` means that it does not end. -/
inductive Outcome
  | ended
  | failed (fault : ClientFault)
  | waiting
  deriving Repr, DecidableEq

def hasInfix (needle : List Char) : List Char → Bool
  | [] => needle.isEmpty
  | c :: rest => needle.isPrefixOf (c :: rest) || hasInfix needle rest

namespace Client

/-- The text of a URL; one without a scheme gets `http`. -/
def completeUrl (text : String) : String :=
  if hasInfix "://".toList text.toList then text else "http://" ++ text

def new (config : ClientConfig) : Except ConfigFault Client := do
  config.check
  let text := completeUrl config.url
  match Url.parse text with
  | .error fault => throw (.url text fault.message)
  | .ok url => return { config, url }

def call (c : Client) (t : TopicCall) : Client :=
  if c.hooked then { c with calls := c.calls ++ [t] } else c

def setLastEventId (c : Client) (id : Bytes) : Client := { c with lastEventId := id }

def authorization (url : Url) : Http.Headers :=
  match url.user, url.password with
  | "", none => []
  | user, password =>
    let plain (text : String) := Http.Form.percentDecode (Bytes.ofString text)
    let login := plain user ++ Bytes.colon :: plain (password.getD "")
    [⟨"authorization", Bytes.ofString "Basic " ++ Base64.encode login⟩]

/-- The header that asks for the events after an id. An id that no header can hold is left out. -/
def resumption (id : Bytes) : Http.Headers :=
  if id.isEmpty || !Http.isValue id then [] else [⟨"last-event-id", id⟩]

def request (c : Client) (topic : Option String) : Http.Request :=
  let url := match topic with
    | none => c.url
    | some topic => c.url.addPair "stream" topic
  { target := url.target
    headers := authorization c.url
      ++ [⟨"accept", Bytes.ofString "text/event-stream"⟩,
        ⟨"cache-control", Bytes.ofString "no-cache"⟩]
      ++ c.config.headers.map (fun (name, value) => ⟨name.toLower, Bytes.ofString value⟩)
      ++ resumption c.lastEventId }

def decoder (c : Client) : Frame.Decoder := .new c.config.maxBufferSize c.config.base64

def reader (c : Client) (r : Response) : Reader :=
  { decoder := c.decoder, chunks := r.arriving, ending := r.arrivingEnd }

/-- Opens a connection. The hook is called for an accepted one only. -/
def connect (c : Client) (topic : Option String) : Client × Except ClientFault Reader :=
  match c.peer.send (c.request topic) with
  | (peer, none) => ({ c with peer }, .error .transport)
  | (peer, some response) =>
    let c := { c with peer }
    if response.isSuccess then (c.call (.connect (topic.getD "")), .ok (c.reader response))
    else (c, .error (.status response.status))

def noteRetry (c : Client) (e : Event) : Client :=
  match e.retry with
  | none => c
  | some delay => { c with retryHint := some delay }

def noteDelivered (c : Client) (id : Bytes) : Client :=
  if id.isEmpty then c else { c with lastEventId := id }

/-- Handles an event of a connection: a suggested delay counts always, and an event with data is
delivered. The events delivered so far come newest first. -/
def handle (state : Client × List Event) (e : Event) : Client × List Event :=
  let c := state.1.noteRetry e
  if e.hasData then (c.noteDelivered e.id, e :: state.2) else (c, state.2)

def readChunks (ending : Ending) (d : Frame.Decoder) (state : Client × List Event) :
    List Bytes → (Client × List Event) × Outcome
  | [] =>
    match ending with
    | .clean => (state, .ended)
    | .broken => (state, .failed .transport)
    | .silent => (state, .waiting)
  | chunk :: rest =>
    match d.decode chunk with
    | (_, .error fault) => (state, .failed (.protocol fault))
    | (d, .ok events) => readChunks ending d (events.foldl handle state) rest

def readStream (c : Client) (topic : Option String) : Client × List Event × Outcome :=
  match c.connect topic with
  | (c, .error fault) => (c, [], .failed fault)
  | (c, .ok reader) =>
    match readChunks reader.ending reader.decoder (c, []) reader.chunks with
    | ((c, events), .waiting) => (c, events.reverse, .waiting)
    | ((c, events), outcome) => (c.call (.disconnect (topic.getD "")), events.reverse, outcome)

def subscribe (c : Client) (topic : String) : Client × List Event × Outcome :=
  c.readStream (some topic)

def subscribeRaw (c : Client) : Client × List Event × Outcome := c.readStream none

structure Reconnected where
  client : Client
  events : List Event := []
  slept : List Duration := []
  outcome : Outcome

def Reconnected.sleptMillis (r : Reconnected) : Nat := r.slept.foldl (fun n d => n + d.ceilMillis) 0

/-- What follows a connection: how many there were in a row without progress, and the delay
before the next one, unless the policy forbids it. `before` is the id remembered when the
connection was made, and `draw` the random factor of the delay. The count is a number of 32 bits
that goes on without end here, which differs only after 2 ^ 32 connections in such a row. -/
def nextAttempt (c : Client) (before : Bytes) (attempt : Nat) (draw : Float) :
    Nat × Option (Except Duration.SecondsFault Duration) :=
  let attempt := (if c.lastEventId ≠ before then 0 else attempt) + 1
  let backoff := c.config.backoff
  (attempt, if backoff.allows attempt then some (backoff.delay attempt c.retryHint draw) else none)

/-- Connects again and again, `fuel` times at most. `attempt` counts the connections since the
last one that changed the remembered id, and `draw` gives the random factor of each delay. -/
def reconnectWithin (topic : String) (draw : Nat → Float) :
    Nat → Nat → List Event → List Duration → Client → Reconnected
  | 0, _, events, slept, c => { client := c, events, slept, outcome := .waiting }
  | fuel + 1, attempt, events, slept, c =>
    let before := c.lastEventId
    match c.subscribe topic with
    | (c, delivered, .waiting) =>
      { client := c, events := events ++ delivered, slept, outcome := .waiting }
    | (c, delivered, outcome) =>
      let events := events ++ delivered
      match c.nextAttempt before attempt (draw slept.length) with
      | (_, none) => { client := c, events, slept, outcome }
      | (_, some (.error cause)) =>
        { client := c, events, slept, outcome := .failed (.delay cause) }
      | (attempt, some (.ok delay)) =>
        reconnectWithin topic draw fuel attempt events (slept ++ [delay]) c

/-- More connections than this are made only by a client that never gives up: each reply of
the peer can start the count again, and refusals exhaust it. -/
def connectionBound (c : Client) : Nat :=
  (c.peer.script.length + 1) * (c.config.backoff.maxAttempts + 1)

def subscribeWithReconnect (c : Client) (topic : String) (draw : Nat → Float) : Reconnected :=
  reconnectWithin topic draw c.connectionBound 0 [] [] c

end Client

end EventBroker
