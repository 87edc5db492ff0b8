import EventBroker.Proofs.Client.Cancellation
import EventBroker.Proofs.Client.Yield

/-!
A background loop and the receiver of its channel, taking turns in any order. The events with
data that the loop has passed are with the receiver or in the channel; the one that it holds
comes next, and then those ahead of its reader. Every turn that does something lowers a
rank, and there is none left to take only when all events have been passed.
-/
namespace EventBroker

/-- The event that a loop has taken from its reader and not sent. -/
def Phase.held : Phase → List Event
  | .holding e | .reserved e => [e]
  | .reading | .ended => []

def Phase.places : Phase → Nat
  | .reserved _ => 1
  | .reading | .holding _ | .ended => 0

/-- How many turns can come before another event is taken from the reader, the one that receives
what is held included. -/
def Phase.weight : Phase → Nat
  | .ended => 0
  | .reading => 1
  | .reserved _ => 3
  | .holding _ => 4

namespace Client

theorem getElem?_setLoop (c : Client) (id : Nat) (l : Loop) (f : Loop → Loop)
    (h : c.loops[id]? = some l) : (c.setLoop id f).loops[id]? = some (f l) := by
  rw [setLoop, List.getElem?_modify_eq, h]
  rfl

theorem getElem?_setChannel (c : Client) (channel : Nat) (ch : Channel) (f : Channel → Channel)
    (h : c.channels[channel]? = some ch) :
    (c.setChannel channel f).channels[channel]? = some (f ch) := by
  rw [setChannel, List.getElem?_modify_eq, h]
  rfl

structure Relay where
  client : Client
  read : List Event := []

namespace Relay

inductive Turn
  | loop
  | receiver
  deriving Repr, DecidableEq

section
variable (id channel : Nat)

/-- What a turn does; `none` if the loop has to wait or has ended, or if the channel is empty. -/
def turn? (r : Relay) : Turn → Option Relay
  | .loop => (r.client.stepLoop id).map fun client => { r with client }
  | .receiver =>
    (r.client.receive? channel).map fun (client, e) => { client, read := r.read ++ [e] }

def step (r : Relay) (t : Turn) : Relay := (r.turn? id channel t).getD r

def run (r : Relay) (turns : List Turn) : Relay := turns.foldl (step id channel) r

def Resting (r : Relay) : Prop := ∀ t, r.turn? id channel t = none

def sent (r : Relay) : List Event :=
  r.read ++ ((r.client.channels[channel]?).map (·.queue)).getD []

end

/-- A loop as it was started: the client once the connection was open, and all events of the
connection with what they come out as. -/
structure Start where
  topic : String
  id : Nat
  channel : Nat
  capacity : Nat
  opened : Client
  all : List Event × Outcome

/-- The loop has passed the events `front`. The receiver is alive, and nothing else is sent on the
channel. -/
structure Carries (s : Start) (r : Relay) (reader : Reader) (phase : Phase)
    (queue front : List Event) : Prop where
  loop : r.client.loops[s.id]? = some { topic := s.topic, channel := s.channel, reader, phase }
  channel : r.client.channels[s.channel]? =
    some { capacity := s.capacity, queue, reserved := phase.places }
  held : ∀ e ∈ phase.held, e.hasData = true
  sent : r.read ++ queue = front.filter (·.hasData)
  remembers : r.client.lastEventId = remembered s.opened.lastEventId front
  hinted : r.client.retryHint = suggested s.opened.retryHint (front ++ phase.held)
  ahead : phase ≠ .ended → s.all = (front ++ phase.held ++ reader.ahead.1, reader.ahead.2)
  passedAll : phase = .ended → s.all.1 = front ∧ s.all.2 ≠ .waiting

def rank (reader : Reader) (phase : Phase) (queue : List Event) : Nat :=
  4 * reader.ahead.1.length + phase.weight + queue.length

def CarriesOn (s : Start) (r : Relay) (bound : Nat) : Prop :=
  ∃ reader phase queue front, Carries s r reader phase queue front ∧
    rank reader phase queue < bound

namespace Carries

variable {s : Start} {r r' : Relay} {reader : Reader} {phase : Phase} {queue front : List Event}

/-- The loop comes to the end of its connection. -/
theorem endLoop (h : Carries s r reader .reading queue front)
    (hahead : reader.ahead.1 = []) (hnever : reader.ahead.2 ≠ .waiting) (l : Loop) :
    CarriesOn s { r with client := r.client.endLoop s.id l } (rank reader .reading queue) := by
  refine ⟨reader, .ended, queue, front, ?_, ?_⟩
  · rw [endLoop_eq]
    have hall : s.all = (front, reader.ahead.2) := by
      simpa [Phase.held, hahead] using h.ahead (by simp)
    exact { h with
      loop := getElem?_setLoop r.client s.id _ (fun l => { l with phase := .ended }) h.loop
      ahead := fun hne => absurd rfl hne
      passedAll := fun _ => by rw [hall]; exact ⟨rfl, hnever⟩ }
  · simp only [rank, Phase.weight]
    omega

/-- The loop takes an event from its reader, and holds it if it has data. -/
theorem takeEvent (h : Carries s r reader .reading queue front) (reader' : Reader) (e : Event)
    (hahead : reader.ahead = (e :: reader'.ahead.1, reader'.ahead.2)) :
    CarriesOn s
      { r with
        client := (r.client.noteRetry e).setLoop s.id fun l =>
          { l with reader := reader', phase := if e.hasData then .holding e else .reading } }
      (rank reader .reading queue) := by
  have hall : s.all = (front ++ [e] ++ reader'.ahead.1, reader'.ahead.2) := by
    simpa [Phase.held, hahead] using h.ahead (by simp)
  have hhint : e.retry.or r.client.retryHint = suggested s.opened.retryHint (front ++ [e]) := by
    rw [suggested_concat, h.hinted, Phase.held, List.append_nil]
  rw [noteRetry_eq]
  cases hdata : e.hasData with
  | true =>
    refine ⟨reader', .holding e, queue, front, ?_, ?_⟩
    · exact { h with
        loop := getElem?_setLoop _ s.id _ _ h.loop
        held := by simpa [Phase.held] using hdata
        hinted := hhint
        ahead := fun _ => hall
        passedAll := by simp }
    · simp only [rank, hahead, Phase.weight, List.length_cons]
      omega
  | false =>
    refine ⟨reader', .reading, queue, front ++ [e], ?_, ?_⟩
    · exact { h with
        loop := getElem?_setLoop _ s.id _ _ h.loop
        sent := by simpa [hdata] using h.sent
        remembers := by
          rw [remembered_concat, hdata]
          exact h.remembers
        hinted := by
          rw [Phase.held, List.append_nil]
          exact hhint
        ahead := fun _ => by simpa [Phase.held] using hall
        passedAll := by simp }
    · simp only [rank, hahead, Phase.weight, List.length_cons]
      omega

theorem reading (h : Carries s r reader .reading queue front)
    (hturn : r.turn? s.id s.channel .loop = some r') :
    CarriesOn s r' (rank reader .reading queue) := by
  have hfinds := reader.finds_next
  rcases hnext : reader.next with ⟨reader', next⟩
  rw [hnext] at hfinds
  simp only [turn?, stepLoop, h.loop, hnext, Bool.false_eq_true, if_false] at hturn
  cases hfinds with
  | event e hahead =>
    obtain rfl := Option.some.inj hturn
    exact h.takeEvent reader' e hahead
  | ended hahead =>
    obtain rfl := Option.some.inj hturn
    exact h.endLoop (by rw [hahead]) (by simp [hahead]) _
  | failed fault hahead =>
    obtain rfl := Option.some.inj hturn
    exact h.endLoop (by rw [hahead]) (by simp [hahead]) _
  | silence hahead => cases hturn

theorem holding {e : Event} (h : Carries s r reader (.holding e) queue front)
    (hturn : r.turn? s.id s.channel .loop = some r') :
    CarriesOn s r' (rank reader (.holding e) queue) := by
  simp only [turn?, stepLoop, h.loop, h.channel, Bool.false_eq_true, Bool.not_true, if_false]
    at hturn
  split at hturn
  · obtain rfl := Option.some.inj hturn
    refine ⟨reader, .reserved e, queue, front, ?_, ?_⟩
    · exact { h with
        loop := getElem?_setLoop _ s.id _ _ h.loop
        channel := getElem?_setChannel _ s.channel _ _ h.channel
        ahead := fun _ => h.ahead (by simp)
        passedAll := by simp }
    · simp only [rank, Phase.weight]
      omega
  · cases hturn

theorem reserving {e : Event} (h : Carries s r reader (.reserved e) queue front)
    (hturn : r.turn? s.id s.channel .loop = some r') :
    CarriesOn s r' (rank reader (.reserved e) queue) := by
  have hdata : e.hasData = true := h.held e (List.mem_singleton_self e)
  simp only [turn?, stepLoop, h.loop, Bool.false_eq_true, if_false, noteDelivered_eq] at hturn
  obtain rfl := Option.some.inj hturn
  refine ⟨reader, .reading, queue ++ [e], front ++ [e], ?_, ?_⟩
  · exact { h with
      loop := getElem?_setLoop _ s.id _ _ h.loop
      channel := getElem?_setChannel _ s.channel _ _ h.channel
      held := by simp [Phase.held]
      sent := by rw [← List.append_assoc, h.sent, List.filter_append, List.filter_cons_of_pos hdata,
        List.filter_nil]
      remembers := by
        rw [remembered_concat, hdata, Bool.true_and, ← h.remembers]
        cases e.id.isEmpty <;> rfl
      hinted := by
        rw [Phase.held, List.append_nil]
        exact h.hinted
      ahead := fun _ => by simpa [Phase.held] using h.ahead (by simp)
      passedAll := by simp }
  · simp only [rank, Phase.weight, List.length_append, List.length_singleton]
    omega

theorem receive (h : Carries s r reader phase queue front)
    (hturn : r.turn? s.id s.channel .receiver = some r') :
    CarriesOn s r' (rank reader phase queue) := by
  cases queue with
  | nil =>
    simp only [turn?, receive?, h.channel] at hturn
    cases hturn
  | cons e queue =>
    simp only [turn?, receive?, h.channel, Option.map_some, Option.some.injEq] at hturn
    subst hturn
    refine ⟨reader, phase, queue, front, ?_, ?_⟩
    · exact { h with
        channel := getElem?_setChannel _ s.channel _ _ h.channel
        sent := by
          rw [List.append_assoc]
          exact h.sent }
    · simp only [rank, List.length_cons]
      omega

/-- A turn that does something lowers the rank. -/
theorem turn (h : Carries s r reader phase queue front) (t : Turn)
    (hturn : r.turn? s.id s.channel t = some r') :
    CarriesOn s r' (rank reader phase queue) := by
  cases t with
  | receiver => exact h.receive hturn
  | loop =>
    cases phase with
    | reading => exact h.reading hturn
    | holding e => exact h.holding hturn
    | reserved e => exact h.reserving hturn
    | ended =>
      rw [turn?, r.client.stepLoop_of_ended s.id _ h.loop rfl] at hturn
      cases hturn

theorem run (h : Carries s r reader phase queue front) (turns : List Turn) :
    ∃ reader' phase' queue' front',
      Carries s (r.run s.id s.channel turns) reader' phase' queue' front' := by
  induction turns generalizing r reader phase queue front with
  | nil => exact ⟨reader, phase, queue, front, h⟩
  | cons t turns ih =>
    rw [Relay.run, List.foldl_cons, step]
    cases hturn : r.turn? s.id s.channel t with
    | none => exact ih h
    | some r' =>
      obtain ⟨_, _, _, _, h', _⟩ := h.turn t hturn
      exact ih h'

/-- Some turns later there is nothing left to do. -/
theorem exists_resting (h : Carries s r reader phase queue front) :
    ∃ turns, (r.run s.id s.channel turns).Resting s.id s.channel := by
  induction hrank : rank reader phase queue using Nat.strong_induction_on
    generalizing r reader phase queue front with
  | _ n ih =>
    by_cases hrest : r.Resting s.id s.channel
    · exact ⟨[], hrest⟩
    · rw [Resting, not_forall] at hrest
      obtain ⟨t, hsome⟩ := hrest
      obtain ⟨r', hturn⟩ := Option.ne_none_iff_exists'.mp hsome
      obtain ⟨reader', phase', queue', front', h', hlt⟩ := h.turn t hturn
      rw [hrank] at hlt
      obtain ⟨turns, hturns⟩ := ih (rank reader' phase' queue') hlt h' rfl
      refine ⟨t :: turns, ?_⟩
      rw [Relay.run, List.foldl_cons, step, hturn]
      exact hturns

/-- With an empty channel a loop waits for its connection only. -/
theorem resting (h : Carries s r reader phase queue front) (hroom : 0 < s.capacity)
    (hrest : r.Resting s.id s.channel) :
    phase = .ended ∨ (phase = .reading ∧ reader.ahead = ([], .waiting)) := by
  have hloop := hrest .loop
  cases phase with
  | ended => exact Or.inl rfl
  | reading =>
    have hfinds := reader.finds_next
    rcases hnext : reader.next with ⟨reader', next⟩
    rw [hnext] at hfinds
    simp only [turn?, stepLoop, h.loop, hnext, Bool.false_eq_true, if_false] at hloop
    cases hfinds with
    | silence hahead => exact Or.inr ⟨rfl, hahead⟩
    | event | ended | failed => cases hloop
  | reserved e =>
    simp only [turn?, stepLoop, h.loop, Bool.false_eq_true, if_false] at hloop
    cases hloop
  | holding e =>
    have hreceiver := hrest .receiver
    cases queue with
    | cons next queue =>
      simp only [turn?, receive?, h.channel] at hreceiver
      cases hreceiver
    | nil =>
      -- No place of the empty channel is held, so there is one for the event.
      simp only [turn?, stepLoop, h.loop, h.channel, Channel.hasRoom, Phase.places,
        List.length_nil, hroom, Nat.add_zero, decide_true, Bool.false_eq_true, Bool.not_true,
        if_false, if_true] at hloop
      cases hloop

/-- A loop with nothing left to do has passed all events. -/
theorem finished (h : Carries s r reader phase queue front)
    (hdone : phase = .ended ∨ (phase = .reading ∧ reader.ahead = ([], .waiting))) :
    s.all.1 = front ∧ phase.held = [] ∧ (phase = .ended ↔ s.all.2 ≠ .waiting) := by
  rcases hdone with rfl | ⟨rfl, hahead⟩
  · obtain ⟨hall, hnever⟩ := h.passedAll rfl
    exact ⟨hall, rfl, iff_of_true rfl hnever⟩
  · have hall : s.all = (front, .waiting) := by
      simpa [Phase.held, hahead] using h.ahead (by simp)
    rw [hall]
    exact ⟨rfl, rfl, iff_of_false (by simp) fun hnever => hnever rfl⟩

theorem isPrefix_all (h : Carries s r reader phase queue front) : front <+: s.all.1 := by
  by_cases hphase : phase = .ended
  · exact ⟨[], by rw [List.append_nil, (h.passedAll hphase).1]⟩
  · rw [h.ahead hphase, List.append_assoc]
    exact List.prefix_append front _

theorem sent_eq (h : Carries s r reader phase queue front) :
    r.sent s.channel = front.filter (·.hasData) := by
  rw [← h.sent, Relay.sent, h.channel]
  rfl

end Carries

end Relay

theorem channels_connect (c : Client) (topic : Option String) :
    (c.connect topic).1.channels = c.channels := by
  unfold connect
  split
  · rfl
  · simp only
    split
    · rw [call_eq]
    · rfl

section
variable (c started : Client) (topic : String) (channel capacity : Nat)
  (hchannel : c.channels[channel]? = some { capacity })
  (hstart : c.subscribeChannel topic channel = (started, .ok ()))
include hchannel hstart

/-- A loop starts where subscribing does. -/
theorem carries_start :
    ∃ opened reader, c.connect (some topic) = (opened, .ok reader) ∧
      Relay.Carries
        { topic, id := c.loops.length, channel, capacity, opened, all := reader.ahead }
        { client := started } reader .reading [] [] := by
  have hloops := (c.sameLoops_connect (some topic)).1
  have hchannels := c.channels_connect (some topic)
  unfold subscribeChannel at hstart
  rcases hconnect : c.connect (some topic) with ⟨opened, fault | reader⟩
  · rw [hconnect] at hstart
    cases hstart
  · rw [hconnect] at hstart hloops hchannels
    cases hstart
    refine ⟨opened, reader, rfl, ?_⟩
    constructor
    case loop => rw [← hloops, List.getElem?_concat_length]
    case channel =>
      rw [← hchannels] at hchannel
      exact hchannel
    case held => simp [Phase.held]
    case sent => rfl
    case remembers => rfl
    case hinted => rfl
    case ahead => exact fun _ => rfl
    case passedAll => simp

/-- Some turns later there is nothing left to do, and then the loop has ended just if subscribing
does. -/
theorem relay_comes_to_rest (hroom : 0 < capacity) (turns : List Relay.Turn) :
    let r := Relay.run c.loops.length channel { client := started } turns
    (∃ more, (r.run c.loops.length channel more).Resting c.loops.length channel) ∧
      (r.Resting c.loops.length channel →
        (r.client.Ended c.loops.length ↔ (c.subscribe topic).2.2 ≠ .waiting)) := by
  intro r
  obtain ⟨opened, reader, hconnect, hstarts⟩ := c.carries_start started topic channel capacity
    hchannel hstart
  obtain ⟨reader', phase, queue, front, h⟩ := hstarts.run turns
  refine ⟨h.exists_resting, fun hrest => ?_⟩
  obtain ⟨_, _, hends⟩ := h.finished (h.resting hroom hrest)
  rw [(c.subscribe_of_ahead opened topic reader hconnect).2.2.2, ← hends]
  constructor
  · rintro ⟨l, hl, hended⟩
    obtain rfl := Option.some.inj (h.loop.symm.trans hl)
    exact hended
  · exact fun hended => ⟨_, h.loop, hended⟩

/-- Whatever the turns of the loop and of the receiver, what was sent are the first events that
subscribing delivers, and after as many of them it remembers the same id. Nothing is missing
once the loop has ended, or has nothing left to do while its channel is empty. -/
theorem relay_matches_subscribe (hroom : 0 < capacity) (turns : List Relay.Turn) :
    let r := Relay.run c.loops.length channel { client := started } turns
    r.sent channel <+: (c.subscribe topic).2.1 ∧
      (∃ n, (c.midway topic n).2 = r.sent channel) ∧
      (∀ n, (c.midway topic n).2.length = (r.sent channel).length →
        (c.midway topic n).2 = r.sent channel ∧
          (c.midway topic n).1.lastEventId = r.client.lastEventId) ∧
      (r.client.Ended c.loops.length ∨ r.Resting c.loops.length channel →
        r.sent channel = (c.subscribe topic).2.1 ∧
          r.client.lastEventId = (c.subscribe topic).1.lastEventId ∧
          r.client.retryHint = (c.subscribe topic).1.retryHint) := by
  intro r
  obtain ⟨opened, reader, hconnect, hstarts⟩ := c.carries_start started topic channel capacity
    hchannel hstart
  obtain ⟨reader', phase, queue, front, h⟩ := hstarts.run turns
  obtain ⟨hdelivered, hid, hhint, _⟩ := c.subscribe_of_ahead opened topic reader hconnect
  have hsent : r.sent channel = front.filter (·.hasData) := h.sent_eq
  have hfront : front <+: reader.ahead.1 := h.isPrefix_all
  refine ⟨?_, ⟨front.length, ?_⟩, ?_, ?_⟩
  · rw [hsent, hdelivered]
    exact hfront.filter _
  · rw [hsent, (c.midway_of_connect opened topic reader hconnect _).2.2,
      ← List.prefix_iff_eq_take.mp hfront]
  · intro n hlength
    rw [hsent] at hlength ⊢
    obtain ⟨hsame, hremembered⟩ :=
      c.midway_of_length opened topic reader hconnect front hfront n hlength
    exact ⟨hsame, hremembered.trans h.remembers.symm⟩
  · intro hdone
    have hphase : phase = .ended ∨ (phase = .reading ∧ reader'.ahead = ([], .waiting)) := by
      rcases hdone with ⟨l, hl, hended⟩ | hrest
      · obtain rfl := Option.some.inj (h.loop.symm.trans hl)
        exact Or.inl hended
      · exact h.resting hroom hrest
    obtain ⟨hall, hheld, _⟩ := h.finished hphase
    have hhinted := h.hinted
    rw [hheld, List.append_nil] at hhinted
    obtain rfl : reader.ahead.1 = front := hall
    rw [hsent, hdelivered, hid, hhint]
    exact ⟨rfl, h.remembers, hhinted⟩

end

/-- A client with a channel of one place, for which two events are to arrive and a delay between
them. -/
def narrow : Client :=
  { config := {}
    url := { scheme := "http", host := some "localhost" }
    channels := [{ capacity := 1 }]
    peer :=
      { script := [.response { chunks :=
          [Bytes.ofString "id: 1\ndata: a\n\nretry: 5\n", Bytes.ofString "\ndata: b\n\n"] }] } }

def narrowRelay (turns : List Relay.Turn) : Relay :=
  Relay.run 0 0 { client := (narrow.subscribeChannel "t" 0).1 } turns

def blocked : List Relay.Turn := List.replicate 6 .loop

def unblocked : List Relay.Turn := blocked ++ .receiver :: List.replicate 3 .loop

theorem relay_matches_subscribe_narrow :
    narrow.channels[0]? = some { capacity := 1 } ∧ (narrow.subscribeChannel "t" 0).2 = .ok () ∧
      (narrowRelay blocked).sent 0 = [{ id := [49], data := [97] }] ∧
      (narrow.midway "t" 1).1.lastEventId = (narrowRelay blocked).client.lastEventId ∧
      (narrowRelay unblocked).client.Ended 0 ∧
      (narrowRelay unblocked).sent 0 = (narrow.subscribe "t").2.1 ∧
      (narrowRelay unblocked).client.retryHint = (narrow.subscribe "t").1.retryHint := by
  have hchannel : narrow.channels[0]? = some { capacity := 1 } := rfl
  have hstart : (narrow.subscribeChannel "t" 0).2 = .ok () := by decide +kernel
  have hsent : (narrowRelay blocked).sent 0 = [{ id := [49], data := [97] }] := by decide +kernel
  have hlength : (narrow.midway "t" 1).2.length = ((narrowRelay blocked).sent 0).length := by
    decide +kernel
  have hended : ((narrowRelay unblocked).client.loops[0]?).map (·.phase) = some .ended := by
    decide +kernel
  obtain ⟨l, hl, hphase⟩ := Option.map_eq_some_iff.mp hended
  have hagrees := narrow.relay_matches_subscribe _ "t" 0 1 hchannel
    (Prod.ext rfl hstart) Nat.one_pos
  obtain ⟨_, _, hmidway, _⟩ := hagrees blocked
  obtain ⟨_, _, _, hwhole⟩ := hagrees unblocked
  obtain ⟨hall, _, hhint⟩ := hwhole (Or.inl ⟨l, hl, hphase⟩)
  exact ⟨hchannel, hstart, hsent, (hmidway 1 hlength).2, ⟨l, hl, hphase⟩, hall, hhint⟩

end Client

end EventBroker
