import EventBroker.Proofs.Client.Loops
import EventBroker.Proofs.Client.Reconnection
import EventBroker.Proofs.Client.Yield

/-!
A client that several callers share. A call that reads a stream does so event by event, and
between two events anything else may be done with the client: other calls read, background
loops run, channels are given up. A call that nothing comes between is a row of such acts,
also where it connects again and again.
-/
namespace EventBroker

def Next.isLast : Next → Bool
  | .ended | .failed _ => true
  | .event _ | .silence => false

/-- A call that reads a stream. Once it has come back it has no reader. -/
structure Shared.Reading where
  topic : String
  reader : Option Reader
  deriving Repr, DecidableEq

structure Shared where
  client : Client
  readings : List Shared.Reading := []

/-- One thing that is done with a shared client. `ask` opens the connection of a call, and `read`
has a call take what comes next on its connection. -/
inductive Shared.Act
  | openChannel (capacity : Nat)
  | closeReceiver (channel : Nat)
  | receive (channel : Nat)
  | setLastEventId (id : Bytes)
  | unsubscribe (channel : Nat)
  | subscribeChannel (topic : String) (channel : Nat)
  | stepLoop (id : Nat)
  | ask (topic : Option String)
  | read (id : Nat)
  deriving Repr, DecidableEq

namespace Shared

def setReading (s : Shared) (id : Nat) (r : Reading) : Shared :=
  { s with readings := s.readings.set id r }

def ask (s : Shared) (topic : Option String) : Shared :=
  match s.client.connect topic with
  | (client, .error _) => { s with client }
  | (client, .ok reader) =>
    { client, readings := s.readings ++ [{ topic := topic.getD "", reader := some reader }] }

def read (s : Shared) (id : Nat) : Shared :=
  match s.readings[id]? with
  | some { topic, reader := some reader } =>
    match reader.next with
    | (reader, .event e) =>
      { s with client := (Client.handle (s.client, []) e).1 }.setReading id ⟨topic, some reader⟩
    | (_, .ended) | (_, .failed _) =>
      { s with client := s.client.call (.disconnect topic) }.setReading id ⟨topic, none⟩
    | (_, .silence) => s
  | _ => s

def step (s : Shared) : Act → Shared
  | .openChannel capacity => { s with client := (s.client.openChannel capacity).1 }
  | .closeReceiver channel => { s with client := s.client.closeReceiver channel }
  | .receive channel =>
    { s with client := ((s.client.receive? channel).map (·.1)).getD s.client }
  | .setLastEventId id => { s with client := s.client.setLastEventId id }
  | .unsubscribe channel => { s with client := s.client.unsubscribe channel }
  | .subscribeChannel topic channel =>
    { s with client := (s.client.subscribeChannel topic channel).1 }
  | .stepLoop id => { s with client := (s.client.stepLoop id).getD s.client }
  | .ask topic => s.ask topic
  | .read id => s.read id

def run (s : Shared) (acts : List Act) : Shared := acts.foldl step s

theorem run_append (s : Shared) (front back : List Act) :
    s.run (front ++ back) = (s.run front).run back := List.foldl_append

def AtRest (s : Shared) : Prop := ∀ r ∈ s.readings, r.reader = none

end Shared

namespace Client

def isAdmitted (c : Client) (topic : Option String) : Bool :=
  (c.peer.send (c.request topic)).2.any (·.isSuccess)

/-- A connection is made, and told of, exactly if its request is answered with success. -/
theorem connect_cases (c : Client) (topic : Option String) :
    (c.isAdmitted topic = false ∧
        ∃ peer fault, c.connect topic = ({ c with peer }, .error fault)) ∨
      (c.isAdmitted topic = true ∧ ∃ peer r, c.connect topic =
        (({ c with peer } : Client).call (.connect (topic.getD "")), .ok (c.reader r))) := by
  unfold isAdmitted connect
  rcases c.peer.send (c.request topic) with ⟨peer, _ | r⟩
  · exact Or.inl ⟨rfl, peer, .transport, rfl⟩
  · simp only [Option.any_some]
    cases r.isSuccess with
    | false => exact Or.inl ⟨rfl, peer, .status r.status, rfl⟩
    | true => exact Or.inr ⟨rfl, peer, r, rfl⟩

/-- Reading a stream handles what is ahead of the reader, and is told of unless it does not end. -/
theorem readStream_of_connect (c opened : Client) (topic : Option String) (reader : Reader)
    (h : c.connect topic = (opened, .ok reader)) (hready : reader.ready = []) :
    let done := reader.ahead.1.foldl handle (opened, [])
    c.readStream topic =
      (if reader.ahead.2 = .waiting then done.1 else done.1.call (.disconnect (topic.getD "")),
        done.2.reverse, reader.ahead.2) := by
  have hahead : Reader.completes reader.ending reader.decoder reader.chunks = reader.ahead := by
    rw [Reader.ahead, hready, List.nil_append]
  simp only [readStream, h, readChunks_eq, hahead]
  cases reader.ahead.2 with
  | waiting => rfl
  | ended => rfl
  | failed fault => rfl

theorem foldl_handle_fst (events : List Event) (c : Client) (delivered delivered' : List Event) :
    (events.foldl handle (c, delivered)).1 = (events.foldl handle (c, delivered')).1 := by
  rw [foldl_handle_client, foldl_handle_client]

inductive ReadCall
  | subscribe (topic : String)
  | subscribeRaw
  | subscribeWithReconnect (topic : String) (draw : Nat → Float)

def perform (c : Client) : ReadCall → Client × Outcome
  | .subscribe topic => ((c.subscribe topic).1, (c.subscribe topic).2.2)
  | .subscribeRaw => (c.subscribeRaw.1, c.subscribeRaw.2.2)
  | .subscribeWithReconnect topic draw =>
    ((c.subscribeWithReconnect topic draw).client, (c.subscribeWithReconnect topic draw).outcome)

end Client

namespace Shared

section
variable (front : List Reading) (topic : String)

theorem setReading_concat (client : Client) (old new : Reading) :
    (Shared.mk client (front ++ [old])).setReading front.length new =
      { client, readings := front ++ [new] } := by
  rw [setReading, List.set_append_right _ _ (Nat.le_refl _), Nat.sub_self]
  rfl

/-- The call that was admitted last takes what is ahead of it. -/
theorem run_read (n : Nat) (client : Client) (reader : Reader) (hn : reader.ahead.1.length = n) :
    ∃ rest : Reader, rest.ahead = ([], reader.ahead.2) ∧
      (Shared.mk client (front ++ [⟨topic, some reader⟩])).run
          (List.replicate n (.read front.length)) =
        { client := (reader.ahead.1.foldl Client.handle (client, [])).1
          readings := front ++ [⟨topic, some rest⟩] } := by
  induction n generalizing client reader with
  | zero =>
    have hnil : reader.ahead.1 = [] := List.eq_nil_of_length_eq_zero hn
    refine ⟨reader, Prod.ext hnil rfl, ?_⟩
    rw [hnil]
    rfl
  | succ n ih =>
    have hfinds := reader.finds_next
    rcases hnext : reader.next with ⟨later, next⟩
    rw [hnext] at hfinds
    cases hfinds with
    | event e hahead =>
      have hlater : later.ahead.1.length = n := by
        rw [hahead] at hn
        exact Nat.succ.inj hn
      have hstep : (Shared.mk client (front ++ [⟨topic, some reader⟩])).step (.read front.length) =
          { client := (Client.handle (client, []) e).1
            readings := front ++ [⟨topic, some later⟩] } := by
        simp only [step, read, List.getElem?_concat_length, hnext, setReading_concat]
      obtain ⟨rest, hrest, hrun⟩ := ih (Client.handle (client, []) e).1 later hlater
      refine ⟨rest, ?_, ?_⟩
      · rw [hrest, hahead]
      · rw [List.replicate_succ, run, List.foldl_cons, hstep]
        refine hrun.trans ?_
        rw [hahead, List.foldl_cons]
        exact congrArg (Shared.mk · _) (Client.foldl_handle_fst _ _ _ _)
    | ended hahead | failed fault hahead | silence hahead =>
      rw [hahead] at hn
      cases hn

/-- With nothing ahead it comes back, unless what is to come is still silent. -/
theorem step_read_last (client : Client) (reader : Reader) (hnil : reader.ahead.1 = [])
    (hend : reader.ahead.2 ≠ .waiting) :
    (Shared.mk client (front ++ [⟨topic, some reader⟩])).step (.read front.length) =
      { client := client.call (.disconnect topic), readings := front ++ [⟨topic, none⟩] } := by
  have hfinds := reader.finds_next
  rcases hnext : reader.next with ⟨later, next⟩
  rw [hnext] at hfinds
  cases hfinds with
  | event e hahead =>
    rw [hahead] at hnil
    cases hnil
  | ended _ | failed fault _ =>
    simp only [step, read, List.getElem?_concat_length, hnext, setReading_concat]
  | silence hahead =>
    rw [hahead] at hend
    exact absurd rfl hend

/-- It reads its stream to the end in a row of acts, and comes back then. -/
theorem exists_acts_read (client : Client) (reader : Reader) :
    let done := (reader.ahead.1.foldl Client.handle (client, [])).1
    ∃ acts rest, (Shared.mk client (front ++ [⟨topic, some reader⟩])).run acts =
        { client := if reader.ahead.2 = .waiting then done else done.call (.disconnect topic)
          readings := front ++ [⟨topic, rest⟩] } ∧
      (reader.ahead.2 ≠ .waiting → rest = none) := by
  obtain ⟨rest, hrest, hrun⟩ := run_read front topic _ client reader rfl
  let reads := List.replicate reader.ahead.1.length (Act.read front.length)
  by_cases hend : reader.ahead.2 = .waiting
  · refine ⟨reads, some rest, ?_, fun hnot => absurd hend hnot⟩
    rw [if_pos hend]
    exact hrun
  · refine ⟨reads ++ [.read front.length], none, ?_, fun _ => rfl⟩
    rw [if_neg hend, run_append, hrun]
    exact step_read_last front topic _ rest (congrArg (·.1) hrest) (by rw [hrest]; exact hend)

end

/-- A call that reads one stream is a row of acts. -/
theorem exists_acts_readStream (s : Shared) (topic : Option String) :
    ∃ acts, (s.run acts).client = (s.client.readStream topic).1 ∧
      ((s.client.readStream topic).2.2 ≠ .waiting → s.AtRest → (s.run acts).AtRest) := by
  rcases s.client.connect_cases topic with ⟨_, peer, fault, hconnect⟩ | ⟨_, peer, r, hconnect⟩
  · have hstep : s.run [.ask topic] = { s with client := { s.client with peer } } := by
      simp only [run, List.foldl_cons, List.foldl_nil, step, ask, hconnect]
    refine ⟨[.ask topic], ?_, ?_⟩
    · rw [hstep, Client.readStream, hconnect]
    · rw [hstep]
      exact fun _ hrest => hrest
  · have hstep : s.step (.ask topic) =
        { client := ({ s.client with peer } : Client).call (.connect (topic.getD ""))
          readings := s.readings ++ [⟨topic.getD "", some (s.client.reader r)⟩] } := by
      simp only [step, ask, hconnect]
    obtain ⟨acts, rest, hrun, hback⟩ := exists_acts_read s.readings (topic.getD "")
      (({ s.client with peer } : Client).call (.connect (topic.getD ""))) (s.client.reader r)
    have hall : s.run (.ask topic :: acts) = _ := (congrArg (·.run acts) hstep).trans hrun
    refine ⟨.ask topic :: acts, ?_, ?_⟩
    · rw [hall, s.client.readStream_of_connect _ topic _ hconnect rfl]
    · rw [s.client.readStream_of_connect _ topic _ hconnect rfl, hall]
      intro hend hrest reading hreading
      rcases List.mem_append.mp hreading with hold | hnew
      · exact hrest reading hold
      · rw [List.mem_singleton.mp hnew]
        exact hback hend

/-- A call that connects again and again is a row of acts. -/
theorem exists_acts_reconnectWithin (topic : String) (draw : Nat → Float) (fuel : Nat)
    (a : Client.Attempt) (events : List Event) (slept : List Duration)
    (hslept : slept.length = a.waits) (s : Shared) (hs : s.client = a.client) :
    let r := Client.reconnectWithin topic draw fuel a.count events slept a.client
    ∃ acts, (s.run acts).client = r.client ∧
      (r.outcome ≠ .waiting → s.AtRest → (s.run acts).AtRest) := by
  induction fuel generalizing a events slept s with
  | zero => exact ⟨[], hs, fun _ hrest => hrest⟩
  | succ fuel ih =>
    obtain ⟨acts, hclient, hrest⟩ := s.exists_acts_readStream (some topic)
    rw [hs] at hclient hrest
    have hwaiting : a.outcome topic = .waiting → a.advance topic draw = .error .waiting := by
      intro houtcome
      rw [a.advance_eq, Client.Attempt.verdict, houtcome]
      rfl
    simp only [Client.reconnectWithin_succ topic draw fuel a events slept hslept]
    cases hadvance : a.advance topic draw with
    | error outcome =>
      refine ⟨acts, hclient, fun hback => hrest fun houtcome => ?_⟩
      rw [hwaiting houtcome] at hadvance
      cases hadvance
      exact hback rfl
    | ok next =>
      obtain ⟨delay, b⟩ := next
      obtain ⟨hafter, _, hwaits, _⟩ := a.next_eq topic draw b delay hadvance
      have hlength : (slept ++ [delay]).length = b.waits := by
        rw [List.length_append, hslept, hwaits]
        rfl
      obtain ⟨more, hmore, hback⟩ := ih b (events ++ a.delivered topic) (slept ++ [delay]) hlength
        (s.run acts) (hclient.trans hafter.symm)
      refine ⟨acts ++ more, ?_, ?_⟩
      · rw [run_append]
        exact hmore
      · rw [run_append]
        refine fun hend hatRest => hback hend (hrest (fun houtcome => ?_) hatRest)
        rw [hwaiting houtcome] at hadvance
        cases hadvance

/-- Whatever a call that reads a stream does is a row of acts, and when it comes back none of them
is left unfinished. -/
theorem exists_acts_perform (s : Shared) (call : Client.ReadCall) :
    ∃ acts, (s.run acts).client = (s.client.perform call).1 ∧
      ((s.client.perform call).2 ≠ .waiting → s.AtRest → (s.run acts).AtRest) := by
  cases call with
  | subscribe topic => exact s.exists_acts_readStream (some topic)
  | subscribeRaw => exact s.exists_acts_readStream none
  | subscribeWithReconnect topic draw =>
    exact exists_acts_reconnectWithin topic draw _ { client := s.client } [] [] rfl s rfl

end Shared

end EventBroker
