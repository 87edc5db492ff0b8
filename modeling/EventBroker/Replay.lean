import EventBroker.Event
import EventBroker.Text.Decimal

/-!
The log of recent events that backfills new and resuming subscribers. Events older
than the time to live are pruned on the next append and passed over by a snapshot
before that; a capacity keeps the newest events. Times are readings of one clock in
nanoseconds.
-/
namespace EventBroker

structure Stored where
  event : Event
  receivedAt : Nat
  deriving Repr, DecidableEq

/-- Oldest entry first. Without a time to live events never expire; one of zero, like
a capacity of zero, retains nothing. -/
structure Replay where
  ttl : Option Duration := none
  capacity : Option Nat := none
  entries : List Stored := []
  deriving Repr, DecidableEq

namespace Replay

def isEnabled (r : Replay) : Bool := r.ttl != some .zero && r.capacity != some 0

def size (r : Replay) : Nat := r.entries.length

def isExpired (r : Replay) (now : Nat) (s : Stored) : Bool :=
  match r.ttl with
  | none => false
  | some ttl => ttl.nanos < now - s.receivedAt

def keepNewest (capacity : Option Nat) (entries : List Stored) : List Stored :=
  match capacity with
  | none => entries
  | some n => entries.drop (entries.length - n)

def prune (r : Replay) (now : Nat) : Replay :=
  { r with entries := keepNewest r.capacity (r.entries.dropWhile (r.isExpired now)) }

def append (r : Replay) (now : Nat) (e : Event) : Replay :=
  if r.isEnabled then { r with entries := r.entries ++ [Stored.mk e now] }.prune now else r

def clear (r : Replay) : Replay := { r with entries := [] }

/-- Whether an id comes after another one: by number if both are numbers, else bytewise. -/
def idAfter (id since : Bytes) : Bool :=
  match Decimal.word id, Decimal.word since with
  | some a, some b => b < a
  | _, _ => Bytes.lt since id

def behind? (id : Bytes) : List Stored → Option (List Stored)
  | [] => none
  | s :: rest => if s.event.id = id then some rest else behind? id rest

def live (r : Replay) (now : Nat) : List Stored := r.entries.filter fun s => !r.isExpired now s

/-- The live entries after the id `since`, or all of them if it is empty. An entry that
still carries the id fixes the place even if it has expired; otherwise ids are compared. -/
def snapshot (r : Replay) (now : Nat) (since : Bytes) : List Stored :=
  if since = [] then r.live now
  else
    match behind? since r.entries with
    | some rest => rest.filter fun s => !r.isExpired now s
    | none => (r.live now).filter fun s => idAfter s.event.id since

end Replay

end EventBroker
