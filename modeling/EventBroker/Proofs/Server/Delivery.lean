import EventBroker.Proofs.Frame.Body
import EventBroker.Proofs.Server.Feed

/-!
What one connection gets of one stream. The connection starts with the events of the log
behind some place; whatever else the server is asked to do, what was written to the
connection and what it still holds are the events of the stream behind that place, as
long as its queue has room for each event that is published.
-/
namespace EventBroker

def Polled.bytes : Polled → Bytes
  | .frame bytes => bytes
  | .pending | .ended => []

namespace Server

open EventStream (numbered)
open EventBroker.Frame (spell)

def written (s : Server) (number : Nat) : Op → Bytes
  | .poll n => if n = number then (s.poll n).2.bytes else []
  | _ => []

def hasRoom (s : Server) (number : Nat) : Bool :=
  (s.connection? number).all fun c =>
    (s.registry.stream? c.stream).all (·.hasRoom c.subscriber)

/-- Where a connection to the stream of a name has got: of the events that are `due`, it was
sent the first ones, and while it is open it holds the others. -/
structure Delivers (s : Server) (name : String) (number : Nat) (sent due : List Event) :
    Prop where
  made : number < s.nextConnection
  sent_first : sent <+: due
  holds : ∀ c, s.connection? number = some c →
    ∃ queue, s.registry.Queues name c.stream c.subscriber queue ∧ sent ++ c.replay ++ queue = due

/-- What is done elsewhere adds to the queue what becomes due. -/
theorem Delivers.elsewhere {s s' : Server} {name : String} {number : Nat} {sent due : List Event}
    (h : s.Delivers name number sent due) (news : List Event)
    (hnext : s.nextConnection ≤ s'.nextConnection)
    (hsame : s'.connection? number = s.connection? number)
    (hqueues : ∀ c queue, s.connection? number = some c →
      s.registry.Queues name c.stream c.subscriber queue →
      s'.registry.Queues name c.stream c.subscriber (queue ++ news)) :
    s'.Delivers name number sent (due ++ news) := by
  refine ⟨Nat.lt_of_lt_of_le h.made hnext, h.sent_first.trans (List.prefix_append due news), ?_⟩
  intro c hc
  rw [hsame] at hc
  obtain ⟨queue, hqueue, hdue⟩ := h.holds c hc
  refine ⟨queue ++ news, hqueues c queue hc hqueue, ?_⟩
  rw [← List.append_assoc, hdue]

theorem Delivers.kept {s s' : Server} {name : String} {number : Nat} {sent due : List Event}
    (h : s.Delivers name number sent due) (hnext : s.nextConnection ≤ s'.nextConnection)
    (hsame : s'.connection? number = s.connection? number)
    (hqueues : ∀ c queue, s.connection? number = some c →
      s.registry.Queues name c.stream c.subscriber queue →
      s'.registry.Queues name c.stream c.subscriber queue) :
    s'.Delivers name number sent due := by
  have hdelivers := h.elsewhere [] hnext hsame fun c queue hc hqueue => by
    rw [List.append_nil]
    exact hqueues c queue hc hqueue
  rwa [List.append_nil] at hdelivers

/-- An attach, by whomever, makes a connection of its own. -/
theorem Delivers.attach {s : Server} {name : String} {number : Nat} {sent due : List Event}
    (h : s.Delivers name number sent due) (hs : s.Sound) (m : String) (lastEventId : Bytes) :
    (s.attach m lastEventId).1.Delivers name number sent due := by
  rcases s.attach_cases hs.registry m lastEventId with
    ⟨r, key, stream, hinserted, _, ⟨fault, hattach⟩ | ⟨subscriber, replay, _, hattach⟩⟩ |
      ⟨_, hattach⟩
  · rw [hattach]
    refine h.kept (Nat.le_refl _) rfl ?_
    intro c queue _ hqueue
    exact (hqueue.inserted m true r key hinserted).perform key s.now _ (Or.inr rfl)
  · have hmade := h.made
    rw [hattach]
    apply h.kept
    · rw [opened, call_eq]
      exact Nat.le_succ _
    · rw [connection?_opened, if_neg (by omega), Option.or_none]
    · intro c queue _ hqueue
      rw [opened, call_eq]
      exact (hqueue.inserted m true r key hinserted).perform key s.now _ (Or.inr rfl)
  · rw [hattach]
    exact h

theorem Delivers.publish_other {s : Server} {name : String} {number : Nat}
    {sent due : List Event} (h : s.Delivers name number sent due) (hs : s.Sound) (m : String)
    (e : Event) (hm : m ≠ name) : (s.publish m e).1.Delivers name number sent due := by
  rcases s.publish_cases hs.registry m e with ⟨r, key, stream, hinserted, _, hpublish⟩ |
    ⟨_, hpublish⟩
  · rw [hpublish]
    refine h.kept (Nat.le_refl _) rfl ?_
    intro c queue _ hqueue
    have hqueue' := hqueue.inserted m true r key hinserted
    apply hqueue'.perform key s.now _
    left
    rintro rfl
    exact key_ne_of_inserted hinserted (hinserted.sound hs.registry) hm hqueue'.key_eq
  · rw [hpublish]
    exact h

/-- What another connection is asked for does not touch the subscriber of this one. -/
theorem Delivers.other {s : Server} {name : String} {number : Nat} {sent due : List Event}
    (h : s.Delivers name number sent due) (hs : s.Sound) (hauto : s.config.autoReplay = true)
    (j : Nat) (op : Op) (hop : op = .poll j ∨ op = .disconnect j) (hj : j ≠ number) :
    (s.step op).Delivers name number sent due := by
  rcases s.step_connection j op hop with ⟨_, hsame⟩ | ⟨c', hc', hattended⟩
  · rw [hsame]
    exact h
  · apply h.kept (Nat.le_of_eq hattended.nextConnection.symm) (hattended.others number (Ne.symm hj))
    intro c queue hc hqueue
    have hserved := hattended.served
    rw [hauto] at hserved
    refine hqueue.served c'.stream c'.subscriber _ ?_ hserved
    intro hstream hsubscriber
    exact hj (hs.separate j number c' c hc' hc hstream hsubscriber)

/-- A connection that is gone has nothing more to send. -/
theorem Delivers.closed {s s' : Server} {name : String} {number : Nat} {sent due : List Event}
    (h : s.Delivers name number sent due) (hnext : s.nextConnection ≤ s'.nextConnection)
    (hnone : s'.connection? number = none) : s'.Delivers name number sent due := by
  refine ⟨Nat.lt_of_lt_of_le h.made hnext, h.sent_first, ?_⟩
  intro c hc
  cases hnone.symm.trans hc

/-- A connection that is polled says at most one thing, the first of those it holds. -/
theorem nextFrame_says (s : Server) (name : String) (c : Connection) (queue : List Event)
    (hrunning : s.stopped = false)
    (hqueue : s.registry.Queues name c.stream c.subscriber queue) :
    ∃ (r : Registry) (c' : Connection) (polled : Polled) (said : List (Option Event))
        (queue' : List Event),
      s.nextFrame c = (r, c', polled) ∧ polled ≠ .ended ∧
      polled.bytes = said.flatMap (spell s.config.base64) ∧
      r.Queues name c.stream c.subscriber queue' ∧ c'.stream = c.stream ∧
      c'.subscriber = c.subscriber ∧
      c.replay ++ queue = said.filterMap id ++ (c'.replay ++ queue') := by
  unfold nextFrame
  rw [hrunning, if_neg Bool.false_ne_true]
  cases hreplay : c.replay with
  | cons e rest =>
    refine ⟨_, _, _, [some e], queue, rfl, by simp, ?_, hqueue, rfl, rfl, rfl⟩
    exact (List.append_nil _).symm
  | nil =>
    obtain ⟨stream, sub, hstream, hsub, hregistered, hsubQueue⟩ := hqueue.found
    have hreceived := hqueue.receive s.now
    rw [s.registry.receive_eq c.stream c.subscriber s.now stream hstream]
    cases queue with
    | cons e rest =>
      have hevent : (stream.receive c.subscriber).2 = .event e := by
        simp only [EventStream.receive, hsub, hsubQueue]
      simp only [hevent]
      refine ⟨_, _, _, [some e], rest, rfl, by simp, ?_, hreceived, rfl, rfl, rfl⟩
      exact (List.append_nil _).symm
    | nil =>
      have hnothing : (stream.receive c.subscriber).2 = .nothing := by
        simp only [EventStream.receive, hsub, hsubQueue, hregistered, if_true]
      simp only [hnothing]
      split
      · exact ⟨_, _, _, [none], [], rfl, by simp, rfl, hreceived, rfl, rfl, rfl⟩
      · exact ⟨_, _, _, [], [], rfl, by simp, rfl, hreceived, rfl, rfl, rfl⟩

/-- A poll of the connection itself moves what it says from what it holds to what was sent. -/
theorem Delivers.poll {s : Server} {name : String} {number : Nat} {sent due : List Event}
    (h : s.Delivers name number sent due) (hrunning : s.stopped = false) :
    ∃ said : List (Option Event),
      (s.poll number).2.bytes = said.flatMap (spell s.config.base64) ∧
      (s.poll number).1.Delivers name number (sent ++ said.filterMap id) due := by
  cases hc : s.connection? number with
  | none =>
    have hpoll : s.poll number = (s, .ended) := by simp only [Server.poll, hc]
    rw [hpoll]
    refine ⟨[], rfl, ?_⟩
    rw [List.filterMap_nil, List.append_nil]
    exact h
  | some c =>
    obtain ⟨queue, hqueue, hdue⟩ := h.holds c hc
    obtain ⟨r, c', polled, said, queue', hnext, hpolled, hbytes, hqueue', hstream, hsubscriber,
      hsaid⟩ := s.nextFrame_says name c queue hrunning hqueue
    have hsplit : (sent ++ said.filterMap id) ++ (c'.replay ++ queue') = due := by
      rw [List.append_assoc, ← hsaid, ← List.append_assoc, hdue]
    rw [s.poll_of_ne_ended number c c' r polled hc hnext hpolled]
    refine ⟨said, hbytes, h.made, ⟨_, hsplit⟩, ?_⟩
    intro c₁ hc₁
    rw [connection?_setConnection, if_pos rfl, Option.map_eq_some_iff] at hc₁
    obtain ⟨_, _, rfl⟩ := hc₁
    rw [hstream, hsubscriber]
    exact ⟨queue', hqueue', by rw [List.append_assoc]; exact hsplit⟩

theorem drop_numbered_concat (events : List Event) (e : Event) (n : Nat) (hn : n ≤ events.length) :
    (numbered (events ++ [e])).drop n =
      (numbered events).drop n ++ [{ e with id := Decimal.encode (events.length + 1) }] := by
  rw [EventStream.numbered_append, List.drop_append_of_le_length]
  · rfl
  · rw [EventStream.length_numbered]
    exact hn

/-- A publish on the stream of the connection finds its queue with room. -/
theorem Delivers.publish {s : Server} {name : String} {events : List Event} {number n : Nat}
    {sent : List Event} (hf : s.Feeds name events) (hn : n ≤ events.length)
    (h : s.Delivers name number sent ((numbered events).drop n)) (e : Event) (he : e.id = [])
    (hpublished : (s.publish name e).2 = true) (hroom : s.hasRoom number = true) :
    (s.publish name e).1.Delivers name number sent ((numbered (events ++ [e])).drop n) := by
  rw [drop_numbered_concat events e n hn]
  rcases s.publish_cases hf.sound.registry name e with
    ⟨r, key, stream, hinserted, hstream, hpublish⟩ | ⟨_, hpublish⟩
  · rw [hpublish]
    refine h.elsewhere _ (Nat.le_refl _) rfl ?_
    intro c queue hc hqueue
    have hqueue' := hqueue.inserted name true r key hinserted
    obtain rfl : key = c.stream :=
      Option.some.inj (hinserted.key_eq.symm.trans hqueue'.key_eq)
    apply hqueue'.publish events
      (hf.registry.inserted hf.sound.registry name true r _ hinserted) s.now e he
    intro found hfound
    obtain ⟨old, _, hold, _⟩ := hqueue.found
    obtain rfl : old = found :=
      Option.some.inj ((hinserted.streams _ old hold).symm.trans hfound)
    rw [hasRoom, hc, Option.all_some, hold, Option.all_some] at hroom
    exact hroom
  · rw [hpublish] at hpublished
    cases hpublished

/-- Where the connection stands after any request that lets its stream go on. -/
theorem Delivers.step {s : Server} {name : String} {events : List Event} {number n : Nat}
    {sent : List Event} (hf : s.Feeds name events) (hn : n ≤ events.length)
    (h : s.Delivers name number sent ((numbered events).drop n)) (op : Op)
    (hop : op.feeds name = true)
    (hroom : (s.accepted name op).isSome = true → s.hasRoom number = true) :
    ∃ said : List (Option Event),
      s.written number op = said.flatMap (spell s.config.base64) ∧
      (s.step op).Delivers name number (sent ++ said.filterMap id)
        ((numbered (events ++ (s.accepted name op).toList)).drop n) := by
  -- A request that says nothing to the connection and publishes nothing on its stream.
  have hsilent : s.written number op = [] → s.accepted name op = none →
      (s.step op).Delivers name number sent ((numbered events).drop n) →
      ∃ said : List (Option Event),
        s.written number op = said.flatMap (spell s.config.base64) ∧
        (s.step op).Delivers name number (sent ++ said.filterMap id)
          ((numbered (events ++ (s.accepted name op).toList)).drop n) := by
    intro hwritten haccepted hdelivers
    refine ⟨[], hwritten, ?_⟩
    rw [haccepted, Option.toList_none, List.append_nil, List.filterMap_nil, List.append_nil]
    exact hdelivers
  cases op with
  | createStream m =>
    apply hsilent rfl rfl
    refine h.kept (Nat.le_refl _) rfl ?_
    intro c queue _ hqueue
    exact hqueue.inserted m false _ _ (s.registry.inserted_insert m false)
  | removeStream m =>
    apply hsilent rfl rfl
    refine h.kept (Nat.le_refl _) rfl ?_
    intro c queue _ hqueue
    exact hqueue.remove hf.sound.registry m (Ne.symm (bne_iff_ne.mp hop))
  | publish m e =>
    by_cases hm : m = name
    · subst hm
      have he : e.id = [] := by simpa [Op.feeds] using hop
      cases hpublished : (s.publish m e).2 with
      | true =>
        rw [s.accepted_publish m e hpublished] at hroom ⊢
        refine ⟨[], rfl, ?_⟩
        rw [List.filterMap_nil, List.append_nil]
        exact h.publish hf hn e he hpublished (hroom rfl)
      | false =>
        apply hsilent rfl (s.accepted_of_refused m m e hpublished)
        rw [Server.step, s.publish_of_refused hf.sound.registry m e hpublished]
        exact h
    · exact hsilent rfl (s.accepted_of_ne name m e hm) (h.publish_other hf.sound m e hm)
  | attach m lastEventId => exact hsilent rfl rfl (h.attach hf.sound m lastEventId)
  | poll j =>
    by_cases hj : j = number
    · subst hj
      have haccepted : s.accepted name (.poll j) = none := rfl
      obtain ⟨said, hbytes, hdelivers⟩ := h.poll hf.running
      refine ⟨said, ?_, ?_⟩
      · rw [written, if_pos rfl]
        exact hbytes
      · rw [haccepted, Option.toList_none, List.append_nil]
        exact hdelivers
    · have hwritten : s.written number (.poll j) = [] := by rw [written, if_neg hj]
      exact hsilent hwritten rfl (h.other hf.sound hf.autoReplay j _ (Or.inl rfl) hj)
  | disconnect j =>
    apply hsilent rfl rfl
    by_cases hj : j = number
    · subst hj
      obtain ⟨_, _, hnext⟩ := s.step_frame hf.sound (.disconnect j) (ne_stop_of_feeds name _ hop)
      apply h.closed hnext
      rw [Server.step, connection?_disconnect, if_pos rfl]
    · exact h.other hf.sound hf.autoReplay j _ (Or.inr rfl) hj
  | advance d =>
    apply hsilent rfl rfl
    exact h.kept (Nat.le_refl _) rfl fun c queue _ hqueue => hqueue
  | stop => exact Bool.noConfusion hop

def body (s : Server) (number : Nat) : List Op → Bytes
  | [] => []
  | op :: ops => s.written number op ++ (s.step op).body number ops

def keepsRoom (s : Server) (name : String) (number : Nat) : List Op → Bool
  | [] => true
  | op :: ops =>
    ((s.accepted name op).isNone || s.hasRoom number) && (s.step op).keepsRoom name number ops

def drained (s : Server) (number : Nat) : Bool :=
  (s.connection? number).any fun c =>
    c.replay.isEmpty &&
      ((s.registry.stream? c.stream).bind (·.subscription? c.subscriber)).any (·.queue.isEmpty)

theorem Delivers.eq_of_drained {s : Server} {name : String} {number : Nat}
    {sent due : List Event} (h : s.Delivers name number sent due)
    (hdrained : s.drained number = true) : sent = due := by
  rw [drained, Option.any_eq_true] at hdrained
  obtain ⟨c, hc, hempty⟩ := hdrained
  rw [Bool.and_eq_true, List.isEmpty_iff] at hempty
  obtain ⟨queue, hqueue, hdue⟩ := h.holds c hc
  obtain ⟨stream, sub, hstream, hsub, _, hsubQueue⟩ := hqueue.found
  rw [hstream, Option.bind_some, hsub, Option.any_some, hsubQueue, List.isEmpty_iff] at hempty
  rw [hempty.1, hempty.2, List.append_nil, List.append_nil] at hdue
  exact hdue

/-- Where a connection stands after a row of requests, and what was written to it. -/
theorem Delivers.run {s : Server} {name : String} {events : List Event} {number n : Nat}
    {sent : List Event} (hf : s.Feeds name events) (hn : n ≤ events.length)
    (h : s.Delivers name number sent ((numbered events).drop n)) (ops : List Op)
    (hops : ∀ op ∈ ops, op.feeds name = true) (hroom : s.keepsRoom name number ops = true) :
    ∃ said : List (Option Event),
      s.body number ops = said.flatMap (spell s.config.base64) ∧
      (s.run ops).Delivers name number (sent ++ said.filterMap id)
        ((numbered (events ++ s.published name ops)).drop n) := by
  induction ops generalizing s events sent with
  | nil =>
    refine ⟨[], rfl, ?_⟩
    rw [published, List.append_nil, List.filterMap_nil, List.append_nil]
    exact h
  | cons op ops ih =>
    have hop := hops op List.mem_cons_self
    have hrest : ∀ o ∈ ops, o.feeds name = true := fun o ho => hops o (List.mem_cons_of_mem op ho)
    rw [keepsRoom, Bool.and_eq_true, Bool.or_eq_true, Option.isNone_iff_eq_none] at hroom
    obtain ⟨hfits, hlater⟩ := hroom
    have hfits' : (s.accepted name op).isSome = true → s.hasRoom number = true := by
      intro hsome
      rcases hfits with hnone | hfits
      · rw [hnone] at hsome
        cases hsome
      · exact hfits
    obtain ⟨first, hwritten, hstep⟩ := h.step hf hn op hop hfits'
    have hconfig := (s.step_frame hf.sound op (ne_stop_of_feeds name op hop)).1
    have hlength : n ≤ (events ++ (s.accepted name op).toList).length := by
      rw [List.length_append]
      omega
    obtain ⟨later, hbody, hrun⟩ := ih (hf.step op hop) hlength hstep hrest hlater
    refine ⟨first ++ later, ?_, ?_⟩
    · rw [body, hwritten, hbody, hconfig, List.flatMap_append]
    · rw [List.filterMap_append, published, ← List.append_assoc, ← List.append_assoc]
      exact hrun

/-- A new connection holds all that was published behind the place it asks for. -/
theorem delivers_attach {s : Server} {name : String} {events : List Event} {n number : Nat}
    (hf : s.Feeds name events) (hn : n ≤ events.length)
    (hattached : (s.attach name (EventStream.idAt n)).2 = .ok number) :
    (s.attach name (EventStream.idAt n)).1.Delivers name number [] ((numbered events).drop n) := by
  rcases s.attach_cases hf.sound.registry name (EventStream.idAt n) with
    ⟨r, key, stream, hinserted, hstream, ⟨fault, hattach⟩ | ⟨subscriber, replay, hok, hattach⟩⟩ |
      ⟨_, hattach⟩
  · rw [hattach] at hattached
    cases hattached
  · rw [hattach] at hattached ⊢
    obtain rfl : s.nextConnection = number := Except.ok.inj hattached
    have hsound := (hinserted.sound hf.sound.registry).ids key stream hstream
    have hnumbers := (hf.registry.inserted hf.sound.registry name true r key hinserted).present
      key stream hinserted.key_eq hstream
    have hreplay := hnumbers.replay s.now n subscriber replay hn hok
    have hqueue : (r.perform key s.now (.subscribe (EventStream.idAt n))).Queues name key
        subscriber [] := by
      refine ⟨hinserted.key_eq, stream.perform s.now (.subscribe (EventStream.idAt n)),
        { id := subscriber }, ?_, ?_, rfl, rfl⟩
      · rw [Registry.stream?_perform, if_pos rfl, hstream]
        rfl
      · exact hsound.subscription?_subscribe s.now _ subscriber replay hok
    have hunused := hf.sound.unused_number s.nextConnection rfl
    refine ⟨?_, List.nil_prefix, ?_⟩
    · rw [opened, call_eq]
      exact Nat.lt_succ_self _
    · intro c hc
      rw [connection?_opened, hunused, if_pos rfl, Option.none_or] at hc
      obtain rfl := Option.some.inj hc
      refine ⟨[], ?_, ?_⟩
      · rw [opened, call_eq]
        exact hqueue
      · rw [List.nil_append, List.append_nil]
        exact hreplay
  · rw [hattach] at hattached
    cases hattached

end Server

end EventBroker
