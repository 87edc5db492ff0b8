import EventBroker.Config
import EventBroker.Frame
import EventBroker.Registry

/-!
The broker: streams by name, and the connections that write their events out. A
connection first writes its replay, then the events of its queue, and a keep-alive
when it has been idle for the configured time. A connection that ends leaves its
stream, and an implicitly created stream goes with its last connection unless replay
is on.
-/
namespace EventBroker

/-- The state of one connection's write loop. `idleSince` is the time of the first poll
after its last frame that found nothing to send. -/
structure Connection where
  stream : Nat
  subscriber : Nat
  replay : List Event
  idleSince : Option Nat := none
  deriving Repr, DecidableEq

inductive HookCall
  | subscribe (name : String) (id : Nat)
  | unsubscribe (name : String) (id : Nat)
  deriving Repr, DecidableEq

/-- `calls` lists the hook calls made so far, `connections` the open connections by number. -/
structure Server where
  config : ServerConfig
  registry : Registry
  connections : List (Nat × Connection) := []
  nextConnection : Nat := 0
  now : Nat := 0
  stopped : Bool := false
  started : Bool := false
  hooked : Bool := true
  calls : List HookCall := []
  deriving Repr, DecidableEq

inductive StartFault
  | alreadyStarted
  | address
  deriving Repr, DecidableEq

inductive Polled
  | frame (bytes : Bytes)
  | pending
  | ended
  deriving Repr, DecidableEq

def ServerConfig.streamSettings (c : ServerConfig) : StreamSettings :=
  { ttl := c.eventTtl, capacity := c.replayCapacity, queueCapacity := c.queueCapacity,
    autoReplay := c.autoReplay }

namespace Server

def ofConfig (config : ServerConfig) : Server :=
  { config, registry := { settings := config.streamSettings } }

def new (config : ServerConfig) : Except ConfigFault Server :=
  config.check.map fun _ => ofConfig config

def call (s : Server) (c : HookCall) : Server :=
  if s.hooked then { s with calls := s.calls ++ [c] } else s

def createStream (s : Server) (name : String) : Server × Nat :=
  let (registry, key) := s.registry.create name
  ({ s with registry }, key)

def removeStream (s : Server) (name : String) : Server × Bool :=
  let (registry, removed) := s.registry.remove name
  ({ s with registry }, removed)

def streamExists (s : Server) (name : String) : Bool := s.registry.contains name

def resolve (s : Server) (name : String) : Server × Option Nat :=
  if s.config.autoStream then
    let (registry, key) := s.registry.getOrCreate name
    ({ s with registry }, some key)
  else (s, s.registry.key? name)

/-- Publishes on a stream found before; false if it has been removed since. -/
def publishOn (s : Server) (key : Nat) (e : Event) : Server × Bool :=
  let (registry, published) := s.registry.publish key s.now e
  ({ s with registry }, published)

def publish (s : Server) (name : String) (e : Event) : Server × Bool :=
  match s.resolve name with
  | (s, none) => (s, false)
  | (s, some key) => s.publishOn key e

def attachTo (s : Server) (name : String) (key : Nat) (lastEventId : Bytes) :
    Server × Except SubscribeFault Nat :=
  match s.registry.subscribe key s.now lastEventId with
  | (registry, .error fault) => ({ s with registry }, .error fault)
  | (registry, .ok (subscriber, replay)) =>
    let connection : Connection := { stream := key, subscriber, replay := replay.map (·.event) }
    let s := { s with
      registry
      connections := s.connections ++ [(s.nextConnection, connection)]
      nextConnection := s.nextConnection + 1 }
    (s.call (.subscribe name subscriber), .ok (s.nextConnection - 1))

/-- Registers a connection. An implicit stream can be released between look-up and
subscription, so a failure is retried as often as `tries` says. -/
def attachWithin (name : String) (lastEventId : Bytes) :
    Nat → Server → Server × Except SubscribeFault Nat
  | 0, s => (s, .error .streamNotFound)
  | tries + 1, s =>
    match s.resolve name with
    | (s, none) => (s, .error .streamNotFound)
    | (s, some key) =>
      match s.attachTo name key lastEventId with
      | (s, .error .streamNotFound) =>
        if s.config.autoStream then attachWithin name lastEventId tries s
        else (s, .error .streamNotFound)
      | result => result

def attach (s : Server) (name : String) (lastEventId : Bytes) :
    Server × Except SubscribeFault Nat :=
  attachWithin name lastEventId 2 s

def connection? (s : Server) (number : Nat) : Option Connection := s.connections.lookup number

def setConnection (s : Server) (number : Nat) (c : Connection) : Server :=
  { s with connections := s.connections.map fun (n, old) => (n, if n = number then c else old) }

/-- What happens to the streams when a connection goes: it leaves its stream, the hook is
called, and an implicit stream is released unless replay is on. -/
def leave (s : Server) (c : Connection) : Server :=
  match s.registry.stream? c.stream with
  | none => s
  | some stream =>
    let s := { s with registry := s.registry.modify c.stream (·.unsubscribe c.subscriber) }
    let s := s.call (.unsubscribe stream.name c.subscriber)
    let registry :=
      if stream.auto && !s.config.autoReplay then (s.registry.releaseIfIdle c.stream).1
      else s.registry
    { s with registry := registry.modify c.stream (·.drop c.subscriber) }

def disconnect (s : Server) (number : Nat) : Server :=
  match s.connection? number with
  | none => s
  | some c => { s.leave c with connections := s.connections.filter (·.1 != number) }

def keepAliveDue (s : Server) (c : Connection) : Bool :=
  match c.idleSince with
  | none => false
  | some since => s.config.keepAliveInterval.nanos ≤ s.now - since

def nextFrame (s : Server) (c : Connection) : Registry × Connection × Polled :=
  if s.stopped then (s.registry, c, .ended)
  else
    match c.replay with
    | e :: rest =>
      (s.registry, { c with replay := rest, idleSince := none },
        .frame (Frame.encode s.config.base64 e))
    | [] =>
      match s.registry.receive c.stream c.subscriber with
      | (registry, .event e) =>
        (registry, { c with idleSince := none }, .frame (Frame.encode s.config.base64 e))
      | (registry, .closed) => (registry, c, .ended)
      | (registry, .nothing) =>
        if s.keepAliveDue c then (registry, { c with idleSince := none }, .frame Frame.keepAlive)
        else (registry, { c with idleSince := some (c.idleSince.getD s.now) }, .pending)

/-- Polls a connection. One that has ended is dropped. -/
def poll (s : Server) (number : Nat) : Server × Polled :=
  match s.connection? number with
  | none => (s, .ended)
  | some c =>
    match s.nextFrame c with
    | (registry, c, .ended) =>
      (({ s with registry }.setConnection number c).disconnect number, .ended)
    | (registry, c, polled) => ({ s with registry }.setConnection number c, polled)

def advance (s : Server) (d : Duration) : Server := { s with now := s.now + d.nanos }

/-- Ends every open connection and removes all streams. A connection notices at its next poll. -/
def stop (s : Server) : Server := { s with stopped := true, registry := s.registry.removeAll }

def start (s : Server) (canBind : Bool) : Server × Except StartFault Unit :=
  if s.started then (s, .error .alreadyStarted)
  else if canBind then ({ s with started := true }, .ok ())
  else (s, .error .address)

end Server

end EventBroker
