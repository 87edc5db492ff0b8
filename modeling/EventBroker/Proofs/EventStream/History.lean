import EventBroker.EventStream

/-!
Runs of one stream. A history is the list of the steps that were taken on a stream,
each with the stream it found, and the stream they lead to. What a subscriber received,
what was published, and which events found room in a queue are read off the steps. For
one subscriber a step is a notice, or nothing at all: other subscribers do not enter.
-/
namespace EventBroker

def Received.event? : Received → Option Event
  | .event e => some e
  | .nothing | .closed => none

namespace EventStream

inductive Op
  | publish (e : Event)
  | subscribe (lastSeen : Bytes)
  | unsubscribe (id : Nat)
  | receive (id : Nat)
  | drop (id : Nat)
  | advance (d : Duration)
  | remove
  | closeIfIdle
  deriving Repr, DecidableEq

def perform (s : EventStream) (now : Nat) : Op → EventStream
  | .publish e => (s.publish now e).1
  | .subscribe lastSeen => (s.subscribe now lastSeen).1
  | .unsubscribe id => s.unsubscribe id
  | .receive id => (s.receive id).1
  | .drop id => s.drop id
  | .advance _ => s
  | .remove => s.remove
  | .closeIfIdle => s.closeIfIdle.1

structure Moment where
  stream : EventStream
  now : Nat
  op : Op
  deriving Repr, DecidableEq

def isRegistered (s : EventStream) (id : Nat) : Bool := (s.subscription? id).any (·.registered)

def hasRoom (s : EventStream) (id : Nat) : Bool :=
  (s.subscription? id).any (·.queue.length < s.settings.queueCapacity)

/-- Whether an id was handed out and its subscriber is registered no more. -/
def hasLeft (s : EventStream) (id : Nat) : Bool := id < s.nextSubscriber && !s.isRegistered id

inductive Notice
  | publish (e : Event)
  | receive
  | leave
  deriving Repr, DecidableEq

namespace Moment

def after (m : Moment) : EventStream := m.stream.perform m.now m.op

def later (m : Moment) : Nat :=
  match m.op with
  | .advance d => m.now + d.nanos
  | _ => m.now

def published (m : Moment) : Option Event :=
  match m.op with
  | .publish e => if m.stream.removed then none else some (m.stream.stamp e).2
  | _ => none

def received (id : Nat) (m : Moment) : Option Event :=
  match m.op with
  | .receive j => if j = id then (m.stream.receive id).2.event? else none
  | _ => none

/-- The event that a step publishes to a registered subscriber whose queue has room. -/
def accepted (id : Nat) (m : Moment) : Option Event :=
  if m.stream.isRegistered id && m.stream.hasRoom id then m.published else none

def notice (id : Nat) (m : Moment) : Option Notice :=
  match m.op with
  | .publish _ => m.published.map .publish
  | .receive j => if j = id then some .receive else none
  | .unsubscribe j => if j = id then some .leave else none
  | .remove => some .leave
  | _ => none

end Moment

/-- The steps taken on a stream, the latest one last, and where they lead. -/
structure History where
  past : List Moment := []
  stream : EventStream
  now : Nat
  deriving Repr, DecidableEq

namespace History

def moment (h : History) (op : Op) : Moment := { stream := h.stream, now := h.now, op }

def step (h : History) (op : Op) : History :=
  { past := h.past ++ [h.moment op], stream := (h.moment op).after, now := (h.moment op).later }

inductive Reachable (name : String) (settings : StreamSettings) (auto : Bool) : History → Prop
  | start (now : Nat) : Reachable name settings auto { stream := .new name settings auto, now }
  | step {h : History} (hr : Reachable name settings auto h) (op : Op) :
      Reachable name settings auto (h.step op)

def published (h : History) : List Event := h.past.filterMap (·.published)

def received (h : History) (id : Nat) : List Event := h.past.filterMap (·.received id)

def accepted (h : History) (id : Nat) : List Event := h.past.filterMap (·.accepted id)

def notices (h : History) (id : Nat) : List Notice :=
  h.past.filterMap fun m => if (m.stream.subscription? id).isSome then m.notice id else none

/-- The events published from the creation of the stream until a subscriber left it. -/
def publishedUntilLeft (h : History) (id : Nat) : List Event :=
  h.past.filterMap fun m => if m.stream.hasLeft id then none else m.published

theorem Reachable.foldl (name : String) (settings : StreamSettings) (auto : Bool) (ops : List Op)
    (h : History) (hr : h.Reachable name settings auto) :
    (ops.foldl History.step h).Reachable name settings auto := by
  induction ops generalizing h with
  | nil => exact hr
  | cons op ops ih => exact ih (h.step op) (hr.step op)

theorem filterMap_concat {α β : Type} (f : α → Option β) (xs : List α) (x : α) :
    (xs ++ [x]).filterMap f = xs.filterMap f ++ (f x).toList := by
  rw [List.filterMap_append]
  cases hx : f x <;> simp [hx]

theorem published_step (h : History) (op : Op) :
    (h.step op).published = h.published ++ (h.moment op).published.toList :=
  filterMap_concat _ h.past (h.moment op)

theorem received_step (h : History) (op : Op) (id : Nat) :
    (h.step op).received id = h.received id ++ ((h.moment op).received id).toList :=
  filterMap_concat _ h.past (h.moment op)

theorem accepted_step (h : History) (op : Op) (id : Nat) :
    (h.step op).accepted id = h.accepted id ++ ((h.moment op).accepted id).toList :=
  filterMap_concat _ h.past (h.moment op)

theorem notices_step (h : History) (op : Op) (id : Nat) :
    (h.step op).notices id =
      h.notices id ++
        (if (h.stream.subscription? id).isSome then (h.moment op).notice id else none).toList :=
  filterMap_concat _ h.past (h.moment op)

theorem publishedUntilLeft_step (h : History) (op : Op) (id : Nat) :
    (h.step op).publishedUntilLeft id =
      h.publishedUntilLeft id ++
        (if h.stream.hasLeft id then none else (h.moment op).published).toList :=
  filterMap_concat _ h.past (h.moment op)

end History

end EventStream

end EventBroker
