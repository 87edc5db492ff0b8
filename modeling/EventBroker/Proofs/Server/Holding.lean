import EventBroker.Proofs.Registry.Holds
import EventBroker.Proofs.Server.Delivery
import EventBroker.Proofs.Server.Record

/-!
One connection through one operation. What a connection says next depends on what it holds:
the rest of its backlog, then its queue, and a keep-alive or nothing when it is idle. Any
operation adds at most the event that it publishes on the stream of the connection, and a
poll takes away at most the first event, which is the one that it writes.
-/
namespace EventBroker

namespace Frame

/-- A keep-alive is not the frame of any event: a comment has a space behind its colon. -/
theorem encode_ne_keepAlive (base64 : Bool) (e : Event) : encode base64 e ≠ keepAlive := by
  unfold encode keepAlive
  cases lines e.comment with
  | cons value values => simp [fieldLines, field, Bytes.space, Bytes.lineFeed]
  | nil =>
    rw [fieldLines, List.flatMap_nil, List.nil_append]
    cases e.id.isEmpty with
    | false => simp [field, idField, Bytes.colon]
    | true =>
      cases e.name.isEmpty with
      | false => simp [field, nameField, Bytes.colon]
      | true =>
        cases e.retry with
        | some delay => simp [field, retryField, Bytes.colon]
        | none =>
          cases dataLines base64 e with
          | cons value values => simp [fieldLines, field, dataField, Bytes.colon]
          | nil => simp [fieldLines, Bytes.lineFeed]

end Frame

namespace Server

/-- All that a connection may have to say next: the first of what it holds, or nothing but a
keep-alive, or that it has ended. -/
inductive Says (s : Server) (c : Connection) (removed : Bool) (queue : List Event) :
    Registry × Connection × Polled → Prop
  | stopped (hstopped : s.stopped = true) : Says s c removed queue (s.registry, c, .ended)
  | replayed (hrunning : s.stopped = false) (e : Event) (rest : List Event)
      (hreplay : c.replay = e :: rest) :
      Says s c removed queue (s.registry, { c with replay := rest, idleSince := none },
        .frame (Frame.encode s.config.base64 e))
  | queued (hrunning : s.stopped = false) (hreplay : c.replay = []) (e : Event)
      (rest : List Event) (hqueue : queue = e :: rest) :
      Says s c removed queue (s.registry.perform c.stream s.now (.receive c.subscriber),
        { c with idleSince := none }, .frame (Frame.encode s.config.base64 e))
  | closed (hrunning : s.stopped = false) (hreplay : c.replay = []) (hqueue : queue = [])
      (hremoved : removed = true) :
      Says s c removed queue
        (s.registry.perform c.stream s.now (.receive c.subscriber), c, .ended)
  | idle (hrunning : s.stopped = false) (hreplay : c.replay = []) (hqueue : queue = [])
      (hremoved : removed = false) (since : Option Nat) (polled : Polled)
      (hpolled : polled = .frame Frame.keepAlive ∨ polled = .pending) :
      Says s c removed queue (s.registry.perform c.stream s.now (.receive c.subscriber),
        { c with idleSince := since }, polled)

theorem says_nextFrame (s : Server) (c : Connection) (stream : EventStream) (sub : Subscription)
    (hstream : s.registry.stream? c.stream = some stream)
    (hsub : stream.subscription? c.subscriber = some sub)
    (hregistered : sub.registered = !stream.removed) :
    s.Says c stream.removed sub.queue (s.nextFrame c) := by
  obtain ⟨key, id, replay, since⟩ := c
  unfold nextFrame
  cases hstopped : s.stopped with
  | true =>
    rw [if_pos rfl]
    exact .stopped hstopped
  | false =>
    rw [if_neg Bool.false_ne_true]
    cases replay with
    | cons e rest => exact .replayed hstopped e rest rfl
    | nil =>
      simp only [s.registry.receive_eq key id s.now stream hstream]
      cases hqueue : sub.queue with
      | cons e rest =>
        have hevent : (stream.receive id).2 = .event e := by
          simp only [EventStream.receive, hsub, hqueue]
        simp only [hevent]
        exact .queued hstopped rfl e rest rfl
      | nil =>
        cases hremoved : stream.removed with
        | true =>
          have hclosed : (stream.receive id).2 = .closed := by
            simp only [EventStream.receive, hsub, hqueue, hregistered, hremoved, Bool.not_true,
              Bool.false_eq_true, if_false]
          simp only [hclosed]
          exact .closed hstopped rfl rfl rfl
        | false =>
          have hnothing : (stream.receive id).2 = .nothing := by
            simp only [EventStream.receive, hsub, hqueue, hregistered, hremoved, Bool.not_false,
              if_true]
          simp only [hnothing]
          split
          · exact .idle hstopped rfl rfl rfl none _ (Or.inl rfl)
          · exact .idle hstopped rfl rfl rfl _ _ (Or.inr rfl)

namespace Moment

/-- The event that an operation publishes on the stream object of a connection whose queue has
room. -/
def accepted (number : Nat) (m : Moment) : Option Event :=
  match m.server.connection? number with
  | none => none
  | some c => if m.server.hasRoom number then (m.publishedOn c.stream).map (·.event) else none

theorem accepted_of_none {m : Moment} (h : m.publication = none) (number : Nat) :
    m.accepted number = none := by
  unfold accepted
  split
  · rfl
  · rw [publishedOn_of_none h, Option.map_none, ite_self]

theorem exists_of_accepted {m : Moment} {number : Nat} {e : Event}
    (h : m.accepted number = some e) : ∃ c, m.server.connection? number = some c ∧
      ∃ x, m.publishedOn c.stream = some x ∧ x.event = e := by
  unfold accepted at h
  split at h
  · cases h
  · next c hc =>
    split at h
    · exact ⟨c, hc, Option.map_eq_some_iff.mp h⟩
    · cases h

theorem accepted_of_closed {m : Moment} {number : Nat}
    (h : m.server.connection? number = none) : m.accepted number = none := by
  rw [accepted, h]

theorem emitted_of_closed {m : Moment} {number : Nat}
    (h : m.server.connection? number = none) : m.emitted number = none := by
  unfold emitted
  split
  · split
    · next n _ hn =>
      have hpoll : m.server.poll n = (m.server, .ended) := by simp only [poll, hn, h]
      rw [hpoll]
      rfl
    · rfl
  · rfl

end Moment

structure Carries (s : Server) (number key : Nat) (held : List Event) : Prop where
  found : ∃ c queue, s.connection? number = some c ∧ c.stream = key ∧
    s.registry.Holds key c.subscriber queue ∧ c.replay ++ queue = held

/-- What others are asked for is not the business of a connection. -/
theorem bypasses_of_acts (s : Server) (hs : s.Sound) (number : Nat) (c : Connection)
    (hc : s.connection? number = some c) (op : Op) (hpublish : ∀ name e, op ≠ .publish name e)
    (hown : op ≠ .poll number ∧ op ≠ .disconnect number) (o : EventStream.Op)
    (ho : s.acts op c.stream o) : o.bypasses c.subscriber = true := by
  have hother : ∀ j, j ≠ number → (∃ c', s.connection? j = some c' ∧ c.stream = c'.stream ∧
      o ∈ Registry.connectionOps c'.subscriber) → o.bypasses c.subscriber = true := by
    rintro j hj ⟨c', hc', hstream, hmem⟩
    have hne : (c'.subscriber != c.subscriber) = true :=
      bne_iff_ne.mpr fun heq => hj (hs.separate j number c' c hc' hc hstream.symm heq)
    simp only [Registry.connectionOps, List.mem_cons, List.not_mem_nil, or_false] at hmem
    rcases hmem with rfl | rfl | rfl | rfl
    · exact hne
    · exact hne
    · exact hne
    · rfl
  cases op with
  | createStream | advance => exact ho.elim
  | publish name e => exact absurd rfl (hpublish name e)
  | attach name lastEventId =>
    obtain rfl := ho
    rfl
  | removeStream | stop =>
    obtain rfl := ho
    rfl
  | poll j => exact hother j (fun hj => hown.1 (by rw [hj])) ho
  | disconnect j => exact hother j (fun hj => hown.2 (by rw [hj])) ho

theorem attach_ne_ok_of_lt (s : Server) (hs : s.Sound) (number : Nat)
    (hlt : number < s.nextConnection) (name : String) (lastEventId : Bytes) :
    (s.attach name lastEventId).2 ≠ .ok number := by
  rcases s.attach_cases hs.registry name lastEventId with
    ⟨r, key, stream, _, _, ⟨fault, hattach⟩ | ⟨subscriber, replay, _, hattach⟩⟩ | ⟨_, hattach⟩
  · rw [hattach]
    exact nofun
  · rw [hattach]
    intro heq
    have hnumber : s.nextConnection = number := Except.ok.inj heq
    omega
  · rw [hattach]
    exact nofun

/-- Only a poll or the end of a connection touches it, and only an attach makes it. -/
theorem connection?_step_of_other (s : Server) (hs : s.Sound) (number : Nat) (op : Op)
    (hown : op ≠ .poll number ∧ op ≠ .disconnect number)
    (hattach : ∀ name lastEventId, op = .attach name lastEventId →
      (s.attach name lastEventId).2 ≠ .ok number) :
    (s.step op).connection? number = s.connection? number := by
  have hconnection : ∀ j, j ≠ number → op = .poll j ∨ op = .disconnect j →
      (s.step op).connection? number = s.connection? number := by
    intro j hj hop
    rcases s.step_connection j op hop with ⟨_, hsame⟩ | ⟨c', _, hattended⟩
    · rw [hsame]
    · exact hattended.others number (Ne.symm hj)
  cases op with
  | createStream | removeStream | advance | stop => rfl
  | publish name e =>
    rcases s.publish_cases hs.registry name e with ⟨r, key, stream, _, _, hpublish⟩ | ⟨_, hpublish⟩
    · rw [step, hpublish]
      rfl
    · rw [step, hpublish]
  | attach name lastEventId =>
    have hnot := hattach name lastEventId rfl
    rcases s.attach_cases hs.registry name lastEventId with
      ⟨r, key, stream, _, _, ⟨fault, hresult⟩ | ⟨subscriber, replay, _, hresult⟩⟩ | ⟨_, hresult⟩
    · rw [step, hresult]
      rfl
    · rw [hresult] at hnot
      have hne : number ≠ s.nextConnection := fun heq => hnot (by rw [heq])
      rw [step, hresult, connection?_opened, if_neg hne, Option.or_none]
    · rw [step, hresult]
  | poll j => exact hconnection j (fun hj => hown.1 (by rw [hj])) (Or.inl rfl)
  | disconnect j => exact hconnection j (fun hj => hown.2 (by rw [hj])) (Or.inr rfl)

theorem connection?_step_of_none (s : Server) (hs : s.Sound) (number : Nat) (op : Op)
    (hnone : s.connection? number = none)
    (hattach : ∀ name lastEventId, op = .attach name lastEventId →
      (s.attach name lastEventId).2 ≠ .ok number) :
    (s.step op).connection? number = none := by
  by_cases hown : op = .poll number ∨ op = .disconnect number
  · rcases s.step_connection number op hown with ⟨_, hsame⟩ | ⟨c, hc, _⟩
    · rw [hsame]
      exact hnone
    · cases hnone.symm.trans hc
  · rw [s.connection?_step_of_other hs number op (not_or.mp hown) hattach]
    exact hnone

namespace Carries

variable {s : Server} {number key : Nat} {held : List Event}

/-- The connection as the other operations leave it. -/
theorem other (h : s.Carries number key held) (hs : s.Sound) (op : Op)
    (hpublish : ∀ name e, op ≠ .publish name e)
    (hown : op ≠ .poll number ∧ op ≠ .disconnect number) :
    (s.step op).Carries number key held := by
  obtain ⟨c, queue, hc, rfl, hholds, hheld⟩ := h.found
  refine ⟨c, queue, ?_, rfl, ?_, hheld⟩
  · rw [s.connection?_step_of_other hs number op hown fun name lastEventId _ =>
      s.attach_ne_ok_of_lt hs number (hs.number_lt number c hc) name lastEventId]
    exact hc
  · exact hholds.reaches (s.reaches_step hs.registry op)
      (s.bypasses_of_acts hs number c hc op hpublish hown)

/-- A publish adds its event to what the connection holds, if it accepts it. -/
theorem publish (h : s.Carries number key held) (hs : s.Sound) (name : String) (e : Event) :
    (s.step (.publish name e)).Carries number key
      (held ++ ((Moment.mk s (.publish name e)).accepted number).toList) := by
  obtain ⟨c, queue, hc, rfl, hholds, rfl⟩ := h.found
  have hsame := s.connection?_step_of_other hs number (.publish name e) ⟨nofun, nofun⟩ nofun
  rcases s.publication_cases hs.registry name e with
    ⟨r, k, stream, hinserted, hstream, hremoved, hstep, hpublication⟩ | ⟨_, hstep, hnone⟩
  · have hinsert := hholds.inserted hinserted
    have hregistry : (s.step (.publish name e)).registry =
        r.perform k s.now (.publish e) := congrArg (·.registry) hstep
    by_cases hk : k = c.stream
    · subst hk
      obtain ⟨old, _, hold, _⟩ := hholds.found
      obtain rfl : old = stream :=
        Option.some.inj ((hinserted.streams _ old hold).symm.trans hstream)
      have hroom : s.hasRoom number = old.hasRoom c.subscriber := by
        rw [hasRoom, hc, Option.all_some, hold, Option.all_some]
      refine ⟨c, _, hsame.trans hc, rfl, ?_, (List.append_assoc _ _ _).symm⟩
      rw [hregistry, Moment.accepted, hc]
      simp only [hroom, Moment.publishedOn_of_publication hpublication, if_true]
      have hpublished := hinsert.publish s.now e old hstream hremoved
      cases hfits : old.hasRoom c.subscriber with
      | true =>
        rw [hfits] at hpublished
        exact hpublished
      | false =>
        rw [hfits] at hpublished
        exact hpublished
    · have hnone : (Moment.mk s (.publish name e)).accepted number = none := by
        rw [Moment.accepted, hc]
        simp only [Moment.publishedOn_of_publication hpublication, if_neg hk, Option.map_none,
          ite_self]
      rw [hnone, Option.toList_none, List.append_nil]
      refine ⟨c, queue, hsame.trans hc, rfl, ?_, rfl⟩
      rw [hregistry]
      exact hinsert.perform k s.now _ fun heq => absurd heq hk
  · rw [Moment.accepted_of_none hnone, Option.toList_none, List.append_nil, hstep]
    exact ⟨c, queue, hc, rfl, hholds, rfl⟩

/-- The connection after a poll that does not end it. -/
theorem setConnection {c : Connection} (hc : s.connection? number = some c) (c' : Connection)
    (r : Registry) (queue : List Event) (hkey : c'.stream = key)
    (hholds : r.Holds key c'.subscriber queue) :
    (({ s with registry := r } : Server).setConnection number c').Carries number key
      (c'.replay ++ queue) := by
  refine ⟨c', queue, ?_, hkey, hholds, rfl⟩
  rw [connection?_setConnection, if_pos rfl]
  exact congrArg (Option.map fun _ => c') hc

/-- A poll sends the first event that the connection holds, or no event, or it ends the body. -/
theorem poll (h : s.Carries number key held) :
    ∃ said : Option Event,
      (s.poll number).2.frame?.toList.filter (· ≠ Frame.keepAlive) =
        said.toList.map (Frame.encode s.config.base64) ∧
      ((said = none ∧ (s.poll number).1.connection? number = none) ∨
        ∃ held', (s.poll number).1.Carries number key held' ∧ said.toList ++ held' = held) := by
  obtain ⟨c, queue, hc, rfl, hholds, rfl⟩ := h.found
  obtain ⟨stream, sub, hstream, hsub, rfl, hregistered⟩ := hholds.found
  have hsays := s.says_nextFrame c stream sub hstream hsub hregistered
  have hreceived := hholds.receive s.now
  have hframe : ∀ e, (Polled.frame (Frame.encode s.config.base64 e)).frame?.toList.filter
      (· ≠ Frame.keepAlive) = [Frame.encode s.config.base64 e] := by
    intro e
    rw [Polled.frame?, Option.toList_some, List.filter_cons_of_pos, List.filter_nil]
    exact decide_eq_true (Frame.encode_ne_keepAlive _ e)
  have hended : ∀ r, s.nextFrame c = (r, c, .ended) →
      (s.poll number).2.frame?.toList.filter (· ≠ Frame.keepAlive) = [] ∧
        (s.poll number).1.connection? number = none := by
    intro r hnext
    rw [s.poll_of_ended number c c r hc hnext]
    refine ⟨rfl, ?_⟩
    rw [connection?_disconnect, if_pos rfl]
  generalize hnext : s.nextFrame c = next at hsays
  cases hsays with
  | stopped hstopped =>
    exact ⟨none, (hended _ hnext).1, Or.inl ⟨rfl, (hended _ hnext).2⟩⟩
  | closed hrunning hreplay hqueue hremoved =>
    exact ⟨none, (hended _ hnext).1, Or.inl ⟨rfl, (hended _ hnext).2⟩⟩
  | replayed hrunning e rest hreplay =>
    rw [s.poll_of_ne_ended number c _ _ _ hc hnext nofun]
    refine ⟨some e, hframe e, Or.inr ⟨_, setConnection hc _ _ sub.queue rfl hholds, ?_⟩⟩
    rw [hreplay]
    rfl
  | queued hrunning hreplay e rest hqueue =>
    rw [s.poll_of_ne_ended number c _ _ _ hc hnext nofun]
    refine ⟨some e, hframe e, Or.inr ⟨_, setConnection hc _ _ sub.queue.tail rfl hreceived, ?_⟩⟩
    rw [hreplay, hqueue]
    rfl
  | idle hrunning hreplay hqueue hremoved since polled hpolled =>
    rw [s.poll_of_ne_ended number c _ _ _ hc hnext (by rcases hpolled with rfl | rfl <;> nofun)]
    refine ⟨none, ?_, Or.inr ⟨_, setConnection hc _ _ sub.queue.tail rfl hreceived, ?_⟩⟩
    · rcases hpolled with rfl | rfl
      · rw [Polled.frame?, Option.toList_some, List.filter_cons_of_neg (by simp), List.filter_nil]
        rfl
      · rfl
    · rw [hqueue]
      rfl

/-- One operation, seen from one connection: what it is sent and then holds is what it held and
accepts, or it is gone. -/
theorem step (h : s.Carries number key held) (hs : s.Sound) (op : Op) :
    ∃ said : Option Event,
      ((Moment.mk s op).emitted number).toList.filter (· ≠ Frame.keepAlive) =
        said.toList.map (Frame.encode s.config.base64) ∧
      ((said = none ∧ (Moment.mk s op).accepted number = none ∧
          (s.step op).connection? number = none) ∨
        ∃ held', (s.step op).Carries number key held' ∧
          said.toList ++ held' = held ++ ((Moment.mk s op).accepted number).toList) := by
  by_cases hpoll : op = .poll number
  · subst hpoll
    have haccepted : (Moment.mk s (.poll number)).accepted number = none :=
      Moment.accepted_of_none rfl number
    obtain ⟨said, hsaid, hgone | ⟨held', hcarries, hheld⟩⟩ := h.poll
    · rw [Moment.emitted_poll]
      exact ⟨said, hsaid, Or.inl ⟨hgone.1, haccepted, hgone.2⟩⟩
    · rw [Moment.emitted_poll, haccepted, Option.toList_none, List.append_nil]
      exact ⟨said, hsaid, Or.inr ⟨held', hcarries, hheld⟩⟩
  · have hnothing : (Moment.mk s op).emitted number = none := Moment.emitted_of_ne_poll hpoll
    rw [hnothing]
    refine ⟨none, rfl, ?_⟩
    by_cases hdisconnect : op = .disconnect number
    · subst hdisconnect
      refine Or.inl ⟨rfl, Moment.accepted_of_none rfl number, ?_⟩
      exact (s.connection?_disconnect number number).trans (if_pos rfl)
    · right
      by_cases hpublish : ∃ name e, op = .publish name e
      · obtain ⟨name, e, rfl⟩ := hpublish
        exact ⟨_, h.publish hs name e, rfl⟩
      · have hne : ∀ name e, op ≠ .publish name e := fun name e heq => hpublish ⟨name, e, heq⟩
        have hnone : (Moment.mk s op).publication = none :=
          Moment.publication_of_ne_publish _ hne
        rw [Moment.accepted_of_none hnone, Option.toList_none, List.append_nil]
        exact ⟨held, h.other hs op hne ⟨hpoll, hdisconnect⟩, rfl⟩

end Carries

end Server

end EventBroker
