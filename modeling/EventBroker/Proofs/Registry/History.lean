import EventBroker.Proofs.Registry.Reaches

/-!
Runs of a registry. A history is the list of the calls that were made of a registry and of
the streams that it gave out, each with the registry it found, and the registry they lead
to. A stream is called through its handle, which is its key: it stays good when the stream
has lost its name, and a stream that is removed through it is not taken off the names.
-/
namespace EventBroker.Registry

open EventStream (Op)

inductive Call
  | create (name : String)
  | get (name : String)
  | getOrCreate (name : String)
  | remove (name : String)
  | releaseIfIdle (key : Nat)
  | removeAll
  | publish (key : Nat) (e : Event)
  | subscribe (key : Nat) (lastSeen : Bytes)
  | receive (key id : Nat)
  | unsubscribe (key id : Nat)
  | drop (key id : Nat)
  | removeStream (key : Nat)
  | advance (d : Duration)
  deriving Repr, DecidableEq

structure Moment where
  registry : Registry
  now : Nat
  call : Call
  deriving Repr, DecidableEq

namespace Moment

def after (m : Moment) : Registry :=
  match m.call with
  | .create name => (m.registry.create name).1
  | .getOrCreate name => (m.registry.getOrCreate name).1
  | .remove name => (m.registry.remove name).1
  | .releaseIfIdle key => (m.registry.releaseIfIdle key).1
  | .removeAll => m.registry.removeAll
  | .publish key e => (m.registry.publish key m.now e).1
  | .subscribe key lastSeen => (m.registry.subscribe key m.now lastSeen).1
  | .receive key id => (m.registry.receive key id).1
  | .unsubscribe key id => m.registry.modify key (·.unsubscribe id)
  | .drop key id => m.registry.modify key (·.drop id)
  | .removeStream key => m.registry.modify key .remove
  | .get _ | .advance _ => m.registry

def later (m : Moment) : Nat :=
  match m.call with
  | .advance d => m.now + d.nanos
  | _ => m.now

def discarded (m : Moment) : Option Nat :=
  match m.call with
  | .removeStream key => (m.registry.stream? key).map fun _ => key
  | _ => none

end Moment

theorem perform_of_unused (r : Registry) (key now : Nat) (op : Op) (h : r.stream? key = none) :
    r.perform key now op = r := by
  have hlength : r.objects.length ≤ key := List.getElem?_eq_none_iff.mp h
  have hobjects : r.objects.modify key (·.perform now op) = r.objects :=
    List.modify_eq_self hlength
  rw [perform, modify, hobjects]

theorem publish_fst_eq (r : Registry) (key now : Nat) (e : Event) :
    (r.publish key now e).1 = r.perform key now (.publish e) := by
  cases hstream : r.stream? key with
  | none => simp only [publish, hstream, r.perform_of_unused key now _ hstream]
  | some stream => rw [r.publish_eq key now e stream hstream]

theorem subscribe_fst_eq (r : Registry) (key now : Nat) (lastSeen : Bytes) :
    (r.subscribe key now lastSeen).1 = r.perform key now (.subscribe lastSeen) := by
  cases hstream : r.stream? key with
  | none => simp only [subscribe, hstream, r.perform_of_unused key now _ hstream]
  | some stream => rw [r.subscribe_eq key now lastSeen stream hstream]

theorem receive_fst_eq (r : Registry) (key id now : Nat) :
    (r.receive key id).1 = r.perform key now (.receive id) := by
  cases hstream : r.stream? key with
  | none => simp only [receive, hstream, r.perform_of_unused key now _ hstream]
  | some stream => rw [r.receive_eq key id now stream hstream]

/-- All that a call may make of a registry. A stream loses its name together with its life, but
through a handle it may be removed and keep the name. -/
inductive Moment.Makes (m : Moment) : Registry → Prop
  | same : Makes m m.registry
  | inserted {r : Registry} {name : String} {auto : Bool} {key : Nat}
      (hi : m.registry.Inserted name auto r key) : Makes m r
  | performed (key : Nat) (op : Op) (hop : op.isFinal = false) :
      Makes m (m.registry.perform key m.now op)
  | discarded (key : Nat) (hcall : m.call = .removeStream key) :
      Makes m (m.registry.perform key m.now .remove)
  | ended (name : String) (key : Nat) (op : Op) (hkey : m.registry.key? name = some key)
      (hended : ∀ stream, m.registry.stream? key = some stream →
        (stream.perform m.now op).removed = true) :
      Makes m ((m.registry.forget name).perform key m.now op)
  | emptied : Makes m m.registry.removeAll

theorem Moment.makes_after (m : Moment) : m.Makes m.after := by
  obtain ⟨r, now, call⟩ := m
  cases call with
  | create name => exact .inserted (r.inserted_insert name false)
  | getOrCreate name => exact .inserted (r.inserted_insert name true)
  | get | advance => exact .same
  | remove name =>
    cases hkey : r.key? name with
    | none =>
      simp only [Moment.after, remove, hkey]
      exact .same
    | some key =>
      simp only [Moment.after, remove, hkey]
      exact .ended name key .remove hkey fun _ _ => rfl
  | releaseIfIdle key =>
    cases hstream : r.stream? key with
    | none =>
      simp only [Moment.after, releaseIfIdle, hstream]
      exact .same
    | some stream =>
      simp only [Moment.after, r.releaseIfIdle_eq key now stream hstream]
      split
      · next hreleased =>
        refine .ended stream.name key .closeIfIdle hreleased.1 ?_
        intro stream' hstream'
        obtain rfl : stream = stream' := Option.some.inj (hstream.symm.trans hstream')
        simp only [EventStream.perform, EventStream.closeIfIdle, hreleased.2.2, if_true]
      · exact .same
  | removeAll => exact .emptied
  | publish key e =>
    simp only [Moment.after, publish_fst_eq]
    exact .performed key (.publish e) rfl
  | subscribe key lastSeen =>
    simp only [Moment.after, subscribe_fst_eq]
    exact .performed key (.subscribe lastSeen) rfl
  | receive key id =>
    simp only [Moment.after, r.receive_fst_eq key id now]
    exact .performed key (.receive id) rfl
  | unsubscribe key id => exact .performed key (.unsubscribe id) rfl
  | drop key id => exact .performed key (.drop id) rfl
  | removeStream key => exact .discarded key rfl

theorem Moment.Makes.reaches {m : Moment} {r : Registry} (h : m.Makes r) :
    m.registry.Reaches (fun _ _ => True) r := by
  cases h with
  | same => exact .refl
  | inserted hi => exact .inserted .refl hi
  | performed key op hop => exact Reaches.refl.perform key m.now op trivial
  | discarded key hcall => exact Reaches.refl.perform key m.now .remove trivial
  | ended name key op hkey hended =>
    exact (Reaches.refl.forget name).perform key m.now op trivial
  | emptied => exact reaches_removeAll (fun _ => trivial) m.registry

structure History where
  past : List Moment := []
  registry : Registry
  now : Nat
  deriving Repr, DecidableEq

namespace History

def moment (h : History) (call : Call) : Moment := { registry := h.registry, now := h.now, call }

def step (h : History) (call : Call) : History :=
  { past := h.past ++ [h.moment call], registry := (h.moment call).after,
    now := (h.moment call).later }

inductive Reachable (settings : StreamSettings) : History → Prop
  | start (now : Nat) : Reachable settings { registry := { settings }, now }
  | step {h : History} (hr : Reachable settings h) (call : Call) : Reachable settings (h.step call)

def discarded (h : History) : List Nat := h.past.filterMap (·.discarded)

theorem discarded_step (h : History) (call : Call) :
    (h.step call).discarded = h.discarded ++ (h.moment call).discarded.toList :=
  EventStream.History.filterMap_concat _ h.past (h.moment call)

def ofCalls (settings : StreamSettings) (calls : List Call) : History :=
  calls.foldl step { registry := { settings }, now := 0 }

theorem reachable_ofCalls (settings : StreamSettings) (calls : List Call) :
    (ofCalls settings calls).Reachable settings := by
  have hrun : ∀ (calls : List Call) (h : History), h.Reachable settings →
      (calls.foldl step h).Reachable settings := by
    intro calls
    induction calls with
    | nil => exact fun _ hr => hr
    | cons call calls ih => exact fun h hr => ih (h.step call) (hr.step call)
  exact hrun calls _ (.start 0)

end History

end EventBroker.Registry
