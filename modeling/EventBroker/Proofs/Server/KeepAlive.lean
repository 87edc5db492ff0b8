import EventBroker.Proofs.Client.Omission
import EventBroker.Proofs.Server.Ledger
import Mathlib.Data.List.DropRight

/-!
When a connection is kept alive. A poll that finds nothing to send starts the clock of a
connection, unless it runs already, and every frame stops it; a later poll that finds
nothing either sends a keep-alive once the clock has run for the configured time. So two
frames with a keep-alive behind them are never closer than that. A client delivers and
remembers the same with the keep-alives and without them.
-/
namespace EventBroker.Server

namespace Moment

def marks (number : Nat) (m : Moment) : Bool :=
  (m.attached number).isSome || (m.emitted number).isSome

def idles (number : Nat) (m : Moment) : Bool :=
  match m.op with
  | .poll n => n == number && (m.server.poll n).2 == .pending
  | _ => false

end Moment

namespace History

/-- When the last frame was written to a connection, or when it was made. -/
def lastMark (h : History) (number : Nat) : Option Nat :=
  (h.past.filter (·.marks number)).getLast?.map (·.server.now)

/-- When a connection had nothing to write for the first time since then. -/
def firstIdle (h : History) (number : Nat) : Option Nat :=
  ((h.past.rtakeWhile (!·.marks number)).find? (·.idles number)).map (·.server.now)

theorem lastMark_step (h : History) (op : Op) (number : Nat) :
    (h.step op).lastMark number =
      if (h.moment op).marks number then some h.server.now else h.lastMark number := by
  unfold lastMark step
  rw [List.filter_append]
  cases hmarks : (h.moment op).marks number with
  | true =>
    rw [List.filter_cons_of_pos hmarks, List.filter_nil, List.getLast?_concat]
    rfl
  | false =>
    rw [List.filter_cons_of_neg (by rw [hmarks]; exact Bool.false_ne_true), List.filter_nil,
      List.append_nil]
    rfl

theorem firstIdle_step (h : History) (op : Op) (number : Nat) :
    (h.step op).firstIdle number =
      if (h.moment op).marks number then none
      else (h.firstIdle number).or
        (if (h.moment op).idles number then some h.server.now else none) := by
  unfold firstIdle step
  rw [List.rtakeWhile_concat]
  cases hmarks : (h.moment op).marks number with
  | true => rfl
  | false =>
    simp only [Bool.not_false, if_true, Bool.false_eq_true, if_false]
    rw [List.find?_append, List.find?_singleton]
    cases (h.past.rtakeWhile (!·.marks number)).find? (·.idles number) with
    | some m => rfl
    | none =>
      rw [Option.none_or]
      split <;> rfl

end History

theorem poll_snd (s : Server) (number : Nat) (c : Connection)
    (hc : s.connection? number = some c) : (s.poll number).2 = (s.nextFrame c).2.2 := by
  rcases hnext : s.nextFrame c with ⟨r, c', polled⟩
  by_cases hended : polled = .ended
  · rw [hended] at hnext ⊢
    rw [s.poll_of_ended number c c' r hc hnext]
  · rw [s.poll_of_ne_ended number c c' r polled hc hnext hended]

/-- A frame stops the clock of a connection; a poll without one starts it, or lets it run on. -/
theorem poll_idleSince (s : Server) (number : Nat) (c c' : Connection)
    (hc : s.connection? number = some c)
    (hc' : (s.poll number).1.connection? number = some c') :
    (∃ bytes, (s.poll number).2 = .frame bytes ∧ c'.idleSince = none) ∨
      (s.poll number).2 = .pending ∧ c'.idleSince = some (c.idleSince.getD s.now) := by
  have hnext : (∃ bytes, (s.nextFrame c).2.2 = .frame bytes ∧
        (s.nextFrame c).2.1.idleSince = none) ∨
      ((s.nextFrame c).2.2 = .pending ∧
        (s.nextFrame c).2.1.idleSince = some (c.idleSince.getD s.now)) ∨
      (s.nextFrame c).2.2 = .ended := by
    unfold nextFrame
    split
    · exact Or.inr (Or.inr rfl)
    · split
      · exact Or.inl ⟨_, rfl, rfl⟩
      · rcases s.registry.receive c.stream c.subscriber with ⟨r, e | _ | _⟩
        · exact Or.inl ⟨_, rfl, rfl⟩
        · simp only
          split
          · exact Or.inl ⟨_, rfl, rfl⟩
          · exact Or.inr (Or.inl ⟨rfl, rfl⟩)
        · exact Or.inr (Or.inr rfl)
  have hsnd := s.poll_snd number c hc
  by_cases hended : (s.nextFrame c).2.2 = .ended
  · rw [s.poll_of_ended number c _ _ hc (by rw [← hended]), connection?_disconnect,
      if_pos rfl] at hc'
    cases hc'
  · rw [s.poll_of_ne_ended number c _ _ _ hc rfl hended, connection?_setConnection, if_pos rfl]
      at hc'
    obtain ⟨_, _, rfl⟩ := Option.map_eq_some_iff.mp hc'
    rw [hsnd]
    rcases hnext with hframe | hpending | hgone
    · exact Or.inl hframe
    · exact Or.inr hpending
    · exact absurd hgone hended

/-- A poll sends a keep-alive exactly if it finds nothing on a connection that is still registered,
and the clock has run long enough. -/
theorem poll_eq_keepAlive_iff (s : Server) (number : Nat) (c : Connection) (stream : EventStream)
    (sub : Subscription) (hc : s.connection? number = some c)
    (hstream : s.registry.stream? c.stream = some stream)
    (hsub : stream.subscription? c.subscriber = some sub) :
    (s.poll number).2 = .frame Frame.keepAlive ↔
      s.stopped = false ∧ c.replay = [] ∧ sub.queue = [] ∧ sub.registered = true ∧
        s.keepAliveDue c = true := by
  have hother : ∀ e, Polled.frame (Frame.encode s.config.base64 e) ≠ .frame Frame.keepAlive :=
    fun e heq => Frame.encode_ne_keepAlive _ e (Polled.frame.inj heq)
  rw [s.poll_snd number c hc]
  unfold nextFrame
  cases hstopped : s.stopped with
  | true => simp
  | false =>
    simp only [Bool.false_eq_true, if_false, true_and]
    cases hreplay : c.replay with
    | cons e rest => simp [hother]
    | nil =>
      simp only [s.registry.receive_eq c.stream c.subscriber s.now stream hstream, true_and]
      cases hqueue : sub.queue with
      | cons e rest =>
        simp [EventStream.receive, hsub, hqueue, hother]
      | nil =>
        cases hregistered : sub.registered with
        | false => simp [EventStream.receive, hsub, hqueue, hregistered]
        | true =>
          cases hdue : s.keepAliveDue c with
          | false => simp [EventStream.receive, hsub, hqueue, hregistered]
          | true => simp [EventStream.receive, hsub, hqueue, hregistered]

theorem now_le_step (s : Server) (hs : s.Sound) (op : Op) : s.now ≤ (s.step op).now := by
  have hconnection : ∀ number, op = .poll number ∨ op = .disconnect number →
      s.now ≤ (s.step op).now := by
    intro number hop
    rcases s.step_connection number op hop with ⟨_, hsame⟩ | ⟨_, _, hattended⟩
    · rw [hsame]
    · exact Nat.le_of_eq hattended.now.symm
  cases op with
  | createStream | removeStream | stop => exact Nat.le_refl _
  | advance d => exact Nat.le_add_right _ _
  | publish name e =>
    rcases s.publish_cases hs.registry name e with ⟨_, _, _, _, _, hpublish⟩ | ⟨_, hpublish⟩
    · rw [step, hpublish]
    · rw [step, hpublish]
  | attach name lastEventId =>
    rcases s.attach_cases hs.registry name lastEventId with
      ⟨_, _, _, _, _, ⟨_, hattach⟩ | ⟨_, _, _, hattach⟩⟩ | ⟨_, hattach⟩
    · rw [step, hattach]
    · rw [step, hattach, opened, call_eq]
    · rw [step, hattach]
  | poll number => exact hconnection number (Or.inl rfl)
  | disconnect number => exact hconnection number (Or.inr rfl)

namespace Moment

theorem idles_of_ne_poll {m : Moment} {number : Nat} (h : m.op ≠ .poll number) :
    m.idles number = false := by
  unfold idles
  split
  · next n hop =>
    have hn : n ≠ number := fun hn => h (hn ▸ hop)
    rw [beq_eq_false_iff_ne.mpr hn, Bool.false_and]
  · rfl

end Moment

namespace History

structure Clocked (h : History) (number : Nat) (c : Connection) : Prop where
  clock : c.idleSince = h.firstIdle number
  mark : ∃ last, h.lastMark number = some last ∧ last ≤ h.server.now ∧
    ∀ since, h.firstIdle number = some since → last ≤ since ∧ since ≤ h.server.now

namespace Clocked

variable {h : History} {number : Nat} {c : Connection}

/-- A connection that has just been marked has no clock running. -/
theorem marked (op : Op) (hs : h.server.Sound) (hmarks : (h.moment op).marks number = true)
    (hidle : c.idleSince = none) : (h.step op).Clocked number c := by
  have hfirst : (h.step op).firstIdle number = none := by rw [firstIdle_step, hmarks, if_pos rfl]
  refine ⟨hidle.trans hfirst.symm, h.server.now, ?_, h.server.now_le_step hs op, ?_⟩
  · rw [lastMark_step, hmarks, if_pos rfl]
  · rw [hfirst]
    exact nofun

/-- An operation that is none of the connection's business leaves its clock alone. -/
theorem unmarked (hc : h.Clocked number c) (op : Op) (hs : h.server.Sound)
    (hmarks : (h.moment op).marks number = false) (hidles : (h.moment op).idles number = false) :
    (h.step op).Clocked number c := by
  obtain ⟨last, hlast, hle, hsince⟩ := hc.mark
  have hnow : h.server.now ≤ (h.step op).server.now := h.server.now_le_step hs op
  have hfirst : (h.step op).firstIdle number = h.firstIdle number := by
    rw [firstIdle_step, hmarks, hidles, if_neg Bool.false_ne_true, if_neg Bool.false_ne_true,
      Option.or_none]
  have hsame : (h.step op).lastMark number = h.lastMark number := by
    rw [lastMark_step, hmarks, if_neg Bool.false_ne_true]
  refine ⟨hc.clock.trans hfirst.symm, last, hsame.trans hlast, Nat.le_trans hle hnow, ?_⟩
  intro since hsome
  rw [hfirst] at hsome
  obtain ⟨hlow, hhigh⟩ := hsince since hsome
  exact ⟨hlow, Nat.le_trans hhigh hnow⟩

/-- A poll that finds nothing starts the clock, or lets it run on. -/
theorem idled (hc : h.Clocked number c) (c' : Connection) (hs : h.server.Sound)
    (hmarks : (h.moment (.poll number)).marks number = false)
    (hidles : (h.moment (.poll number)).idles number = true)
    (hidle : c'.idleSince = some (c.idleSince.getD h.server.now)) :
    (h.step (.poll number)).Clocked number c' := by
  obtain ⟨last, hlast, hle, hsince⟩ := hc.mark
  have hnow : h.server.now ≤ (h.step (.poll number)).server.now :=
    h.server.now_le_step hs (.poll number)
  have hfirst : (h.step (.poll number)).firstIdle number =
      some ((h.firstIdle number).getD h.server.now) := by
    rw [firstIdle_step, hmarks, hidles, if_neg Bool.false_ne_true, if_pos rfl]
    cases h.firstIdle number <;> rfl
  have hsame : (h.step (.poll number)).lastMark number = h.lastMark number := by
    rw [lastMark_step, hmarks, if_neg Bool.false_ne_true]
  refine ⟨?_, last, hsame.trans hlast, Nat.le_trans hle hnow, ?_⟩
  · rw [hidle, hfirst, hc.clock]
  · intro since hsome
    rw [hfirst] at hsome
    cases hbefore : h.firstIdle number with
    | none =>
      rw [hbefore] at hsome
      cases hsome
      exact ⟨hle, hnow⟩
    | some before =>
      rw [hbefore] at hsome
      cases hsome
      obtain ⟨hlow, hhigh⟩ := hsince before hbefore
      exact ⟨hlow, Nat.le_trans hhigh hnow⟩

theorem step {config : ServerConfig} (hc : h.Clocked number c) (hr : h.Recorded config)
    (hopen : h.server.connection? number = some c) (op : Op) (c' : Connection)
    (hc' : (h.step op).server.connection? number = some c') : (h.step op).Clocked number c' := by
  have hsound := hr.sound
  have hother : ∀ name lastEventId, op = .attach name lastEventId →
      (h.server.attach name lastEventId).2 ≠ .ok number := fun name lastEventId _ =>
    h.server.attach_ne_ok_of_lt hsound number (hsound.number_lt number c hopen) name lastEventId
  have hmarks : (h.moment op).marks number = ((h.moment op).emitted number).isSome := by
    rw [Moment.marks, Moment.attached_of_not (m := h.moment op) hother, Option.isSome_none,
      Bool.false_or]
  by_cases hpoll : op = .poll number
  · subst hpoll
    rw [moment, Moment.emitted_poll] at hmarks
    rcases h.server.poll_idleSince number c c' hopen hc' with
      ⟨bytes, hframe, hidle⟩ | ⟨hpending, hidle⟩
    · rw [hframe] at hmarks
      exact .marked _ hsound hmarks hidle
    · rw [hpending] at hmarks
      have hidles : (h.moment (.poll number)).idles number = true := by
        simp only [Moment.idles, moment, hpending, beq_self_eq_true, Bool.and_self]
      exact hc.idled c' hsound hmarks hidles hidle
  · rw [Moment.emitted_of_ne_poll (m := h.moment op) hpoll] at hmarks
    have hidles := Moment.idles_of_ne_poll (m := h.moment op) hpoll
    have hleft : op ≠ .disconnect number := by
      rintro rfl
      rw [show (h.step (.disconnect number)).server = h.server.disconnect number from rfl,
        connection?_disconnect, if_pos rfl] at hc'
      cases hc'
    have hsame := h.server.connection?_step_of_other hsound number op ⟨hpoll, hleft⟩ hother
    obtain rfl : c = c' := Option.some.inj ((hsame.trans hopen).symm.trans hc')
    exact hc.unmarked op hsound hmarks hidles

/-- A new connection has no clock running. -/
theorem made {config : ServerConfig} (hr : h.Recorded config)
    (hclosed : h.server.connection? number = none) (op : Op)
    (hc : (h.step op).server.connection? number = some c) : (h.step op).Clocked number c := by
  have hsound := hr.sound
  have hattach : ∃ name lastEventId, op = .attach name lastEventId ∧
      (h.server.attach name lastEventId).2 = .ok number := by
    by_contra hnot
    have hnone := h.server.connection?_step_of_none hsound number op hclosed
      fun name lastEventId hop hok => hnot ⟨name, lastEventId, hop, hok⟩
    cases hnone.symm.trans hc
  obtain ⟨name, lastEventId, rfl, hok⟩ := hattach
  obtain ⟨hnumber, _, _, _, _, _, hkey, _⟩ := hr.attach_ok name lastEventId number hok
  have hmarks : (h.moment (.attach name lastEventId)).marks number = true := by
    have hattached := Moment.attached_of_ok hok hkey
    rw [Moment.marks, moment, hattached, Option.isSome_some, Bool.true_or]
  apply Clocked.marked _ hsound hmarks
  have hserver : (h.step (.attach name lastEventId)).server =
      (h.server.attach name lastEventId).1 := rfl
  rw [hserver] at hc
  rcases h.server.attach_cases hsound.registry name lastEventId with
    ⟨_, _, _, _, _, ⟨_, hresult⟩ | ⟨_, _, _, hresult⟩⟩ | ⟨_, hresult⟩
  · rw [hresult] at hok
    cases hok
  · rw [hresult, connection?_opened, hclosed, Option.none_or, if_pos hnumber] at hc
    cases hc
    rfl
  · rw [hresult] at hok
    cases hok

end Clocked

theorem Reachable.clocked {config : ServerConfig} {h : History} (hr : h.Reachable config)
    (number : Nat) (c : Connection) (hc : h.server.connection? number = some c) :
    h.Clocked number c := by
  revert c
  refine Continues.of_step hr
    (P := fun h => ∀ c, h.server.connection? number = some c → h.Clocked number c) nofun ?_
  intro h hcontinues hclocked op c' hc'
  have hrecorded : h.Recorded config := Reachable.recorded hcontinues
  cases hopen : h.server.connection? number with
  | some c => exact (hclocked c hopen).step hrecorded hopen op c' hc'
  | none => exact .made hrecorded hopen op hc'

/-- Nothing is written to a connection but keep-alives and the frames of events. -/
theorem Reachable.emitted_cases {config : ServerConfig} {h : History} (hr : h.Reachable config)
    (number : Nat) (f : Bytes) (hf : f ∈ h.emitted number) :
    f = Frame.keepAlive ∨ ∃ e, f = Frame.encode config.base64 e := by
  obtain ⟨hunused, hbalances⟩ := hr.balances number
  by_cases hkeep : f = Frame.keepAlive
  · exact Or.inl hkeep
  · right
    cases horigin : h.origin number with
    | none =>
      rw [(hunused horigin).emitted] at hf
      cases hf
    | some origin =>
      have hframe : f ∈ h.frames number := List.mem_filter.mpr ⟨hf, decide_eq_true hkeep⟩
      have hsent := (hbalances origin.1 origin.2 horigin).sent.subset hframe
      obtain ⟨e, _, rfl⟩ := List.mem_map.mp hsent
      exact ⟨e, rfl⟩

/-- An open connection has a stream object and a mailbox there. -/
theorem Reachable.mailbox {config : ServerConfig} {h : History} (hr : h.Reachable config)
    (number : Nat) (c : Connection) (hc : h.server.connection? number = some c) :
    ∃ stream sub, h.server.registry.stream? c.stream = some stream ∧
      stream.subscription? c.subscriber = some sub := by
  obtain ⟨hunused, hbalances⟩ := hr.balances number
  cases horigin : h.origin number with
  | none => cases (hunused horigin).closed.symm.trans hc
  | some origin =>
    obtain ⟨held, hcarries, _⟩ := (hbalances origin.1 origin.2 horigin).carries c hc
    obtain ⟨c', queue, hc', hkey, hholds, _⟩ := hcarries.found
    obtain rfl : c' = c := Option.some.inj (hc'.symm.trans hc)
    obtain ⟨stream, sub, hstream, hsub, _⟩ := hholds.found
    exact ⟨stream, sub, hkey ▸ hstream, hsub⟩

theorem Clocked.keepAliveDue_iff {h : History} {number : Nat} {c : Connection}
    (hc : h.Clocked number c) :
    h.server.keepAliveDue c = true ↔ ∃ since, h.firstIdle number = some since ∧
      since + h.server.config.keepAliveInterval.nanos ≤ h.server.now := by
  obtain ⟨_, _, _, hsince⟩ := hc.mark
  unfold keepAliveDue
  rw [hc.clock]
  cases hfirst : h.firstIdle number with
  | none => simp
  | some since =>
    obtain ⟨_, hle⟩ := hsince since hfirst
    simp only [decide_eq_true_eq, Option.some.injEq, exists_eq_left']
    omega

/-- A poll of an open connection sends a keep-alive exactly if the server runs, neither a replayed
nor a queued event waits, the connection is registered, and the interval has passed since the
first poll behind its last frame that found nothing; so it has passed since that frame, too, or
since the connection was made. Whatever part of the body a client is given, and in whatever
chunks, it delivers, remembers and ends the same without the keep-alives. -/
theorem keepAlive_discipline (config : ServerConfig) (h : History) (hr : h.Reachable config)
    (number : Nat) :
    (∀ c, h.server.connection? number = some c → ∃ stream sub last,
        h.server.registry.stream? c.stream = some stream ∧
        stream.subscription? c.subscriber = some sub ∧ h.lastMark number = some last ∧
        ((h.moment (.poll number)).emitted number = some Frame.keepAlive ↔
          h.server.stopped = false ∧ c.replay = [] ∧ sub.queue = [] ∧ sub.registered = true ∧
            ∃ since, h.firstIdle number = some since ∧
              since + config.keepAliveInterval.nanos ≤ h.server.now) ∧
        ((h.moment (.poll number)).emitted number = some Frame.keepAlive →
          last + config.keepAliveInterval.nanos ≤ h.server.now)) ∧
      ∀ client : Client, 0 < client.config.maxBufferSize →
        ∀ (topic : String) (received : List (List (UInt8 × Bool))),
        received.flatten <+: Frame.marked (h.emitted number) → ∀ ending,
          let kept := (client.expecting
            { chunks := received.map Frame.whole, ending }).subscribe topic
          let left := (client.expecting
            { chunks := received.map Frame.bare, ending }).subscribe topic
          (received.map Frame.whole).flatten <+: (h.emitted number).flatten ∧
            (received.map Frame.bare).flatten <+: (h.frames number).flatten ∧
            kept.2 = left.2 ∧ kept.1.lastEventId = left.1.lastEventId ∧
            kept.1.retryHint = left.1.retryHint := by
  constructor
  · intro c hc
    obtain ⟨stream, sub, hstream, hsub⟩ := hr.mailbox number c hc
    have hclocked := hr.clocked number c hc
    obtain ⟨last, hlast, _, hsince⟩ := hclocked.mark
    have hemitted : (h.moment (.poll number)).emitted number = some Frame.keepAlive ↔
        (h.server.poll number).2 = .frame Frame.keepAlive := by
      rw [moment, Moment.emitted_poll]
      cases (h.server.poll number).2 <;> simp [Polled.frame?]
    have hiff := hemitted.trans (h.server.poll_eq_keepAlive_iff number c stream sub hc hstream hsub)
    rw [hclocked.keepAliveDue_iff, hr.recorded.config_eq] at hiff
    refine ⟨stream, sub, last, hstream, hsub, hlast, hiff, ?_⟩
    intro hkeep
    obtain ⟨_, _, _, _, since, hfirst, hdue⟩ := hiff.mp hkeep
    exact Nat.le_trans (Nat.add_le_add_right (hsince since hfirst).1 _) hdue
  · intro client hlimit topic received hreceived ending kept left
    refine ⟨?_, ?_, ?_⟩
    · rw [← Frame.whole_flatten, ← Frame.whole_marked]
      exact hreceived.map _
    · rw [← Frame.bare_flatten, frames, ← Frame.bare_marked]
      exact (hreceived.filter _).map _
    · refine client.subscribe_bare hlimit topic (h.emitted number) ?_ received hreceived ending
      intro f hf
      rcases hr.emitted_cases number f hf with hkeep | ⟨e, he⟩
      · exact Or.inl hkeep
      · exact Or.inr ⟨config.base64, e, he⟩

/-- The connection is given `a`, is kept alive once, and is idle for the interval again. -/
def idling : History :=
  ofOps {} [.createStream "news", .publish "news" { data := [97] }, .attach "news" [],
    .poll 0, .poll 0, .advance (.ofMillis 15000), .poll 0, .poll 0, .advance (.ofMillis 15000)]

/-- It is kept alive again, for its last frame is old enough, and a client that is sent all of it
in one chunk is given `a` as it is without the keep-alive. -/
theorem keepAlive_discipline_idling :
    let client : Client := { config := {}, url := { scheme := "http" } }
    let a := Frame.encode false { id := [49], data := [97] }
    idling.Reachable {} ∧ (idling.moment (.poll 0)).emitted 0 = some Frame.keepAlive ∧
      (∃ last, idling.lastMark 0 = some last ∧ last + 15000000000 ≤ idling.server.now) ∧
      ((client.expecting { chunks := [a ++ Frame.keepAlive] }).subscribe "news").2 =
        ((client.expecting { chunks := [a] }).subscribe "news").2 := by
  intro client a
  let c : Connection :=
    { stream := 0, subscriber := 1, replay := [], idleSince := some 15000000000 }
  have hr : idling.Reachable {} := reachable_ofOps _ _
  have hc : idling.server.connection? 0 = some c := by decide +kernel
  have hkeep : (idling.moment (.poll 0)).emitted 0 = some Frame.keepAlive := by decide +kernel
  have hemitted : idling.emitted 0 = [a, Frame.keepAlive] := by decide +kernel
  obtain ⟨hopen, hclient⟩ := keepAlive_discipline {} idling hr 0
  obtain ⟨_, _, last, _, _, hlast, _, hlate⟩ := hopen c hc
  refine ⟨hr, hkeep, ⟨last, hlast, hlate hkeep⟩, ?_⟩
  have hwhole : [Frame.marked (idling.emitted 0)].map Frame.whole = [a ++ Frame.keepAlive] := by
    rw [hemitted]
    decide +kernel
  have hbare : [Frame.marked (idling.emitted 0)].map Frame.bare = [a] := by
    rw [hemitted]
    decide +kernel
  have hall : [Frame.marked (idling.emitted 0)].flatten <+: Frame.marked (idling.emitted 0) := by
    rw [List.flatten_singleton]
  obtain ⟨_, _, hsame, _⟩ := hclient client (by decide) "news" _ hall .clean
  rw [hwhole, hbare] at hsame
  exact hsame

end History

end EventBroker.Server
