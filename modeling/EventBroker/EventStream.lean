import EventBroker.Replay

/-!
A named feed of events. A publish appends to the replay log and offers the event to
the queue of every registered subscriber; a full queue loses the event for that
subscriber alone. Subscribing takes the replay and registers in one step, so that no
event falls between the two. A removed stream stays removed, and what was queued
before can still be read.
-/
namespace EventBroker

structure StreamSettings where
  ttl : Option Duration := none
  capacity : Option Nat := none
  queueCapacity : Nat := 1024
  autoReplay : Bool := true
  deriving Repr, DecidableEq

/-- A subscriber's queue, oldest event first. Once it is no longer registered nothing is
added to it. -/
structure Subscription where
  id : Nat
  queue : List Event := []
  registered : Bool := true
  deriving Repr, DecidableEq

/-- `auto` marks a stream that came into being with a publish or subscribe. `sequence` and
`nextSubscriber` are numbers of 64 bits that go on without end here, which differs only after
2 ^ 64 events or subscribers of one stream. -/
structure EventStream where
  name : String
  settings : StreamSettings
  auto : Bool
  replay : Replay
  sequence : Nat := 0
  nextSubscriber : Nat := 1
  removed : Bool := false
  subscriptions : List Subscription := []
  deriving Repr, DecidableEq

inductive Received
  | event (e : Event)
  | nothing
  | closed
  deriving Repr, DecidableEq

inductive SubscribeFault
  | streamNotFound
  | noRoom
  | tooMuchRoom
  deriving Repr, DecidableEq

def maxQueueCapacity : Nat := 2305843009213693951

def SubscribeFault.message : SubscribeFault → String
  | .streamNotFound => "stream not found"
  | .noRoom => "mpsc bounded channel requires buffer > 0"
  | .tooMuchRoom =>
    "a semaphore may not have more than MAX_PERMITS permits (" ++ toString maxQueueCapacity ++ ")"

namespace Subscription

def offer (s : Subscription) (capacity : Nat) (e : Event) : Subscription :=
  if s.registered && s.queue.length < capacity then { s with queue := s.queue ++ [e] } else s

def deregister (s : Subscription) : Subscription := { s with registered := false }

end Subscription

namespace EventStream

def new (name : String) (settings : StreamSettings) (auto : Bool) : EventStream :=
  { name, settings, auto, replay := { ttl := settings.ttl, capacity := settings.capacity } }

def subscriberCount (s : EventStream) : Nat := s.subscriptions.countP (·.registered)

def buffered (s : EventStream) : Nat := s.replay.size

def isIdle (s : EventStream) : Bool := s.subscriptions.all fun sub => !sub.registered

/-- The event as it is published: one without an id gets the next number of the sequence. -/
def stamp (s : EventStream) (e : Event) : EventStream × Event :=
  if e.id.isEmpty then
    ({ s with sequence := s.sequence + 1 }, { e with id := Decimal.encode (s.sequence + 1) })
  else (s, e)

/-- Appends to the replay log and offers the event to every queue. A removed stream
refuses the event. -/
def publish (s : EventStream) (now : Nat) (e : Event) : EventStream × Bool :=
  if s.removed then (s, false)
  else
    let (s, e) := s.stamp e
    let replay := if s.settings.autoReplay then s.replay.append now e else s.replay
    let subscriptions := s.subscriptions.map (·.offer s.settings.queueCapacity e)
    ({ s with replay, subscriptions }, true)

/-- Registers a subscriber; the answer holds its id and the events that it must see first.
A queue without any room cannot be made, nor one that is too large; the id is used up then. -/
def subscribe (s : EventStream) (now : Nat) (lastSeen : Bytes) :
    EventStream × Except SubscribeFault (Nat × List Stored) :=
  if s.removed then (s, .error .streamNotFound)
  else
    let id := s.nextSubscriber
    let s' := { s with nextSubscriber := id + 1 }
    if s.settings.queueCapacity = 0 then (s', .error .noRoom)
    else if maxQueueCapacity < s.settings.queueCapacity then (s', .error .tooMuchRoom)
    else
      let replay := if s.settings.autoReplay then s.replay.snapshot now lastSeen else []
      ({ s' with subscriptions := s.subscriptions ++ [{ id }] }, .ok (id, replay))

def subscription? (s : EventStream) (id : Nat) : Option Subscription :=
  s.subscriptions.find? (·.id == id)

def update (s : EventStream) (id : Nat) (f : Subscription → Subscription) : EventStream :=
  { s with subscriptions := s.subscriptions.map fun sub => if sub.id = id then f sub else sub }

/-- Takes the oldest event from a subscriber's queue. An empty queue is closed once its
subscriber is not registered any more. -/
def receive (s : EventStream) (id : Nat) : EventStream × Received :=
  match s.subscription? id with
  | none => (s, .closed)
  | some sub =>
    match sub.queue with
    | e :: rest => (s.update id fun sub => { sub with queue := rest }, .event e)
    | [] => (s, if sub.registered then .nothing else .closed)

/-- Unknown ids are ignored. -/
def unsubscribe (s : EventStream) (id : Nat) : EventStream := s.update id .deregister

def drop (s : EventStream) (id : Nat) : EventStream :=
  { s with subscriptions := s.subscriptions.filter (·.id != id) }

def remove (s : EventStream) : EventStream :=
  { s with
    removed := true
    replay := s.replay.clear
    subscriptions := s.subscriptions.map .deregister }

def closeIfIdle (s : EventStream) : EventStream × Bool :=
  if s.isIdle then ({ s with removed := true, replay := s.replay.clear }, true) else (s, false)

end EventStream

end EventBroker
