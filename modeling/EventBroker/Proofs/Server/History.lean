import EventBroker.Proofs.EventStream.History
import EventBroker.Proofs.Run
import EventBroker.Proofs.Server.Feed
import EventBroker.Server.Endpoint

/-!
Runs of a server. A history is the list of the operations that a server was asked for,
each with the server it found, and the server they lead to. What was published on a
stream object or under a name, and what was written to a connection, are read off the
operations. A request over HTTP is one of these operations, or none, and a request for
the headers of a stream alone drops its connection at once.
-/
namespace EventBroker

open Http

def Polled.frame? : Polled → Option Bytes
  | .frame bytes => some bytes
  | .pending | .ended => none

namespace Server

structure Moment where
  server : Server
  op : Op
  deriving Repr, DecidableEq

namespace Moment

def after (m : Moment) : Server := m.server.step m.op

/-- The stream object that an operation publishes on, by its key, and the event with its id
and the time. -/
def publication (m : Moment) : Option (Nat × Stored) :=
  match m.op with
  | .publish name e =>
    match m.server.resolve name with
    | (_, none) => none
    | (s, some key) =>
      if (s.publishOn key e).2 then
        (s.registry.stream? key).map fun stream => (key, ⟨(stream.stamp e).2, s.now⟩)
      else none
  | _ => none

def publishedOn (key : Nat) (m : Moment) : Option Stored :=
  m.publication.bind fun p => if p.1 = key then some p.2 else none

def publishedAs (name : String) (m : Moment) : Option Stored :=
  match m.op with
  | .publish n _ => if n = name then m.publication.map (·.2) else none
  | _ => none

def emitted (number : Nat) (m : Moment) : Option Bytes :=
  match m.op with
  | .poll n => if n = number then (m.server.poll n).2.frame? else none
  | _ => none

theorem emitted_poll (s : Server) (number : Nat) :
    (Moment.mk s (.poll number)).emitted number = (s.poll number).2.frame? := if_pos rfl

theorem emitted_of_ne_poll {m : Moment} {number : Nat} (h : m.op ≠ .poll number) :
    m.emitted number = none := by
  unfold emitted
  split
  · next n hop =>
    have hn : n ≠ number := fun hn => h (hn ▸ hop)
    exact if_neg hn
  · rfl

end Moment

/-- The event and the stream of a request to publish that is not refused beforehand. -/
def postedEvent (r : Request) : Option (String × Event) :=
  match Form.readFields ["stream", "id", "event"] r.query with
  | .error _ => none
  | .ok fields =>
    match fields.lookup "stream" with
    | none => none
    | some name =>
      if maxBodySize < r.body.length then none
      else
        let text (field : String) : Bytes := Bytes.ofString ((fields.lookup field).getD "")
        some (name, { data := r.body, id := text "id", name := text "event" })

def requestedStream (r : Request) : Option (String × Bytes) :=
  match Form.readFields ["stream"] r.query with
  | .error _ => none
  | .ok fields =>
    let name := (fields.lookup "stream").getD ""
    if name.isEmpty then none else some (name, (r.headers.get? "last-event-id").getD [])

def requestOps (s : Server) (routes : Routes) (r : Request) : List Op :=
  match (routes.endpoints r.path).find? (·.methods.contains r.method) with
  | none => []
  | some .publish =>
    match postedEvent r with
    | none => []
    | some (name, e) => [.publish name e]
  | some .stream =>
    match requestedStream r with
    | none => []
    | some (name, lastEventId) =>
      match r.method == "HEAD", (s.attach name lastEventId).2 with
      | true, .ok number => [.attach name lastEventId, .disconnect number]
      | _, _ => [.attach name lastEventId]

theorem servePublish_fst (s : Server) (r : Request) :
    (s.servePublish r).1 =
      match postedEvent r with
      | none => s
      | some (name, e) => (s.publish name e).1 := by
  unfold servePublish postedEvent
  cases Form.readFields ["stream", "id", "event"] r.query with
  | error fault => rfl
  | ok fields =>
    simp only
    cases fields.lookup "stream" with
    | none => rfl
    | some name =>
      simp only
      split
      · rfl
      · simp only
        split
        · next h => exact (congrArg (·.1) h).symm
        · next h => exact (congrArg (·.1) h).symm

/-- A request for a stream attaches to it if it names one; the answer then tells whether that
succeeded. -/
theorem serveStream_cases (s : Server) (r : Request) :
    (requestedStream r = none ∧ ∃ reply, s.serveStream r = (s, .whole reply)) ∨
      ∃ name lastEventId, requestedStream r = some (name, lastEventId) ∧
        ((∃ fault served, (s.attach name lastEventId).2 = .error fault ∧
            s.serveStream r = ((s.attach name lastEventId).1, served) ∧
            ∀ reply number, served ≠ .opened reply number) ∨
          ∃ number reply, (s.attach name lastEventId).2 = .ok number ∧
            s.serveStream r = ((s.attach name lastEventId).1, .opened reply number)) := by
  unfold serveStream requestedStream
  cases Form.readFields ["stream"] r.query with
  | error fault => exact Or.inl ⟨rfl, _, rfl⟩
  | ok fields =>
    simp only
    by_cases hname : ((fields.lookup "stream").getD "").isEmpty = true
    · simp only [if_pos hname]
      exact Or.inl ⟨trivial, _, rfl⟩
    · simp only [if_neg hname]
      refine Or.inr ⟨_, _, rfl, ?_⟩
      rcases s.attach _ _ with ⟨s', fault | number⟩
      · left
        cases fault <;> exact ⟨_, _, rfl, rfl, nofun⟩
      · exact Or.inr ⟨_, _, rfl, rfl⟩

/-- A request over HTTP does to the server what it comes to. -/
theorem handle_fst (s : Server) (routes : Routes) (r : Request) :
    (s.handle routes r).1 = (s.requestOps routes r).foldl step s := by
  unfold requestOps
  cases hendpoint : (routes.endpoints r.path).find? (·.methods.contains r.method) with
  | none =>
    simp only [handle, hendpoint]
    split <;> rfl
  | some endpoint =>
    cases endpoint with
    | publish =>
      simp only [handle, hendpoint, servePublish_fst]
      cases postedEvent r <;> rfl
    | stream =>
      simp only [handle, hendpoint]
      rcases s.serveStream_cases r with ⟨hnone, reply, hserve⟩ |
        ⟨name, lastEventId, hsome, ⟨fault, served, hattach, hserve, hnot⟩ |
          ⟨number, reply, hattach, hserve⟩⟩
      · rw [hnone, hserve]
        cases r.method == "HEAD" <;> rfl
      · simp only [hsome, hserve, hattach]
        cases r.method == "HEAD" with
        | false => rfl
        | true =>
          cases served with
          | opened reply number => exact absurd rfl (hnot reply number)
          | whole reply => rfl
          | broken cause => rfl
      · simp only [hsome, hserve, hattach]
        cases r.method == "HEAD" <;> rfl

/-- The operations that a server was asked for, the latest one last, and where they lead. -/
structure History where
  past : List Moment := []
  server : Server
  deriving Repr, DecidableEq

namespace History

def moment (h : History) (op : Op) : Moment := { server := h.server, op }

def step (h : History) (op : Op) : History :=
  { past := h.past ++ [h.moment op], server := (h.moment op).after }

def run (h : History) (ops : List Op) : History := ops.foldl step h

/-- What a history can go on to; a request is a row of operations. -/
abbrev Continues (start : History) : History → Prop := EventBroker.Continues History.step start

def Reachable (config : ServerConfig) (h : History) : Prop :=
  Continues { server := .ofConfig config } h

def publishedOn (h : History) (key : Nat) : List Stored := h.past.filterMap (·.publishedOn key)

def publishedAs (h : History) (name : String) : List Stored :=
  h.past.filterMap (·.publishedAs name)

def emitted (h : History) (number : Nat) : List Bytes := h.past.filterMap (·.emitted number)

theorem server_run (h : History) (ops : List Op) : (h.run ops).server = h.server.run ops :=
  (List.foldl_hom History.server fun _ _ => rfl).symm

/-- A server goes on to where its answer to a request leads. -/
theorem Continues.handle {start h : History} (hr : start.Continues h) (routes : Routes)
    (r : Request) :
    ∃ h', start.Continues h' ∧ h'.server = (h.server.handle routes r).1 :=
  ⟨h.run (h.server.requestOps routes r), hr.run _,
    (h.server_run _).trans (h.server.handle_fst routes r).symm⟩

end History

end Server

end EventBroker
