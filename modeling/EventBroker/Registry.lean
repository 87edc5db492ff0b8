import EventBroker.EventStream

/-!
Streams by name. Every stream object that was ever made keeps its key, so that a
handle to it stays good after the object has lost its name; the name table tells
which object is found under a name now.
-/
namespace EventBroker

/-- `objects` lists the stream objects by key, and `names` says which of them are registered. -/
structure Registry where
  settings : StreamSettings
  objects : List EventStream := []
  names : List (String × Nat) := []
  deriving Repr, DecidableEq

namespace Registry

def key? (r : Registry) (name : String) : Option Nat := r.names.lookup name

def stream? (r : Registry) (key : Nat) : Option EventStream := r.objects[key]?

def get? (r : Registry) (name : String) : Option EventStream := (r.key? name).bind r.stream?

def contains (r : Registry) (name : String) : Bool := (r.key? name).isSome

def size (r : Registry) : Nat := r.names.length

def sortedNames (r : Registry) : List String :=
  (r.names.map (·.1)).mergeSort fun a b => decide (a ≤ b)

def modify (r : Registry) (key : Nat) (f : EventStream → EventStream) : Registry :=
  { r with objects := r.objects.modify key f }

def forget (r : Registry) (name : String) : Registry :=
  { r with names := r.names.filter (·.1 != name) }

/-- The key of the stream of a name; an unknown name gets a fresh stream. -/
def insert (r : Registry) (name : String) (auto : Bool) : Registry × Nat :=
  match r.key? name with
  | some key => (r, key)
  | none =>
    let key := r.objects.length
    ({ r with
        objects := r.objects ++ [.new name r.settings auto]
        names := r.names ++ [(name, key)] }, key)

def create (r : Registry) (name : String) : Registry × Nat := r.insert name false

def getOrCreate (r : Registry) (name : String) : Registry × Nat := r.insert name true

def remove (r : Registry) (name : String) : Registry × Bool :=
  match r.key? name with
  | some key => ((r.modify key .remove).forget name, true)
  | none => (r, false)

/-- Drops an implicitly created stream that nobody is attached to, if it is the very
object registered under its name. -/
def releaseIfIdle (r : Registry) (key : Nat) : Registry × Bool :=
  match r.stream? key with
  | none => (r, false)
  | some stream =>
    if r.key? stream.name = some key ∧ stream.auto then
      match stream.closeIfIdle with
      | (closed, true) => ((r.modify key fun _ => closed).forget stream.name, true)
      | (_, false) => (r, false)
    else (r, false)

def removeAll (r : Registry) : Registry :=
  r.names.foldl (fun r (name, key) => (r.modify key .remove).forget name) r

def publish (r : Registry) (key : Nat) (now : Nat) (e : Event) : Registry × Bool :=
  match r.stream? key with
  | none => (r, false)
  | some stream =>
    let (stream, published) := stream.publish now e
    (r.modify key fun _ => stream, published)

def subscribe (r : Registry) (key : Nat) (now : Nat) (lastSeen : Bytes) :
    Registry × Except SubscribeFault (Nat × List Stored) :=
  match r.stream? key with
  | none => (r, .error .streamNotFound)
  | some stream =>
    let (stream, result) := stream.subscribe now lastSeen
    (r.modify key fun _ => stream, result)

def receive (r : Registry) (key id : Nat) : Registry × Received :=
  match r.stream? key with
  | none => (r, .closed)
  | some stream =>
    let (stream, received) := stream.receive id
    (r.modify key fun _ => stream, received)

end Registry

end EventBroker
