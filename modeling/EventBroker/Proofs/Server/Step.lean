import EventBroker.Proofs.Registry
import EventBroker.Server

/-!
What a server can be asked to do. Each request is described by what it does to the registry
and to the table of connections.
-/
namespace EventBroker.Server

open Registry (Served)

inductive Op
  | createStream (name : String)
  | removeStream (name : String)
  | publish (name : String) (e : Event)
  | attach (name : String) (lastEventId : Bytes)
  | poll (number : Nat)
  | disconnect (number : Nat)
  | advance (d : Duration)
  | stop
  deriving Repr, DecidableEq

def step (s : Server) : Op → Server
  | .createStream name => (s.createStream name).1
  | .removeStream name => (s.removeStream name).1
  | .publish name e => (s.publish name e).1
  | .attach name lastEventId => (s.attach name lastEventId).1
  | .poll number => (s.poll number).1
  | .disconnect number => s.disconnect number
  | .advance d => s.advance d
  | .stop => s.stop

/-- What a look-up that may create a stream comes to. -/
theorem resolve_cases (s : Server) (name : String) :
    (∃ r key, s.registry.Inserted name true r key ∧
        s.resolve name = ({ s with registry := r }, some key)) ∨
      s.registry.key? name = none ∧ s.resolve name = (s, none) := by
  unfold resolve
  cases hauto : s.config.autoStream with
  | true =>
    exact Or.inl ⟨_, _, s.registry.inserted_insert name true, rfl⟩
  | false =>
    cases hkey : s.registry.key? name with
    | none => exact Or.inr ⟨rfl, rfl⟩
    | some key =>
      exact Or.inl ⟨s.registry, key, s.registry.inserted_of_key? name true key hkey, rfl⟩

/-- A publish is a step of the stream that the name leads to, if it leads to one. -/
theorem publish_cases (s : Server) (hs : s.registry.Sound) (name : String) (e : Event) :
    (∃ r key stream, s.registry.Inserted name true r key ∧ r.stream? key = some stream ∧
        s.publish name e =
          ({ s with registry := r.perform key s.now (.publish e) }, true)) ∨
      s.registry.key? name = none ∧ s.publish name e = (s, false) := by
  unfold publish
  rcases s.resolve_cases name with ⟨r, key, hinserted, hresolve⟩ | ⟨hkey, hresolve⟩
  · left
    obtain ⟨stream, hstream, hremoved⟩ := hinserted.exists_stream hs
    refine ⟨r, key, stream, hinserted, hstream, ?_⟩
    have hpublished : (stream.publish s.now e).2 = true := by
      simp only [EventStream.publish, hremoved, Bool.false_eq_true, if_false]
    simp only [hresolve, publishOn, r.publish_eq key s.now e stream hstream, hpublished]
  · right
    rw [hresolve]
    exact ⟨hkey, rfl⟩

theorem publish_of_refused (s : Server) (hs : s.registry.Sound) (name : String) (e : Event)
    (hrefused : (s.publish name e).2 = false) : (s.publish name e).1 = s := by
  rcases s.publish_cases hs name e with ⟨r, key, stream, _, _, hpublish⟩ | ⟨_, hpublish⟩
  · rw [hpublish] at hrefused
    cases hrefused
  · rw [hpublish]

theorem call_eq (s : Server) (c : HookCall) : s.call c = { s with calls := (s.call c).calls } := by
  unfold call
  split <;> rfl

def opened (s : Server) (name : String) (r : Registry) (c : Connection) : Server :=
  ({ s with
      registry := r
      connections := s.connections ++ [(s.nextConnection, c)]
      nextConnection := s.nextConnection + 1 } : Server).call (.subscribe name c.subscriber)

theorem attachTo_eq (s : Server) (name : String) (key : Nat) (lastEventId : Bytes)
    (stream : EventStream) (hstream : s.registry.stream? key = some stream) :
    s.attachTo name key lastEventId =
      match (stream.subscribe s.now lastEventId).2 with
      | .error fault =>
        ({ s with registry := s.registry.perform key s.now (.subscribe lastEventId) },
          .error fault)
      | .ok (subscriber, replay) =>
        (s.opened name (s.registry.perform key s.now (.subscribe lastEventId))
          { stream := key, subscriber, replay := replay.map (·.event) }, .ok s.nextConnection) := by
  unfold attachTo
  rw [s.registry.subscribe_eq key s.now lastEventId stream hstream]
  cases (stream.subscribe s.now lastEventId).2 with
  | error fault => rfl
  | ok answer => rfl

/-- The stream that a look-up leads to can be attached to at the first try. -/
theorem attach_eq_attachTo (s : Server) (hs : s.registry.Sound) (name : String)
    (lastEventId : Bytes) :
    s.attach name lastEventId =
      match s.resolve name with
      | (s', none) => (s', .error .streamNotFound)
      | (s', some key) => s'.attachTo name key lastEventId := by
  unfold attach attachWithin
  rcases s.resolve_cases name with ⟨r, key, hinserted, hresolve⟩ | ⟨_, hresolve⟩
  · obtain ⟨stream, hstream, hremoved⟩ := hinserted.exists_stream hs
    have hattach := attachTo_eq { s with registry := r } name key lastEventId stream hstream
    rcases stream.subscribe_cases s.now lastEventId with
      ⟨_, hok⟩ | ⟨fault, next, _, hfound, hfault⟩
    · rw [hok] at hattach
      simp only [hresolve, hattach]
    · rw [hfault] at hattach
      simp only [hresolve, hattach]
      cases fault with
      | streamNotFound => exact absurd rfl (hfound hremoved)
      | noRoom => rfl
      | tooMuchRoom => rfl
  · rw [hresolve]

/-- An attach is a subscribe of the stream that the name leads to, if it leads to one. It is
answered as this subscribe is. -/
theorem attach_eq (s : Server) (hs : s.registry.Sound) (name : String) (lastEventId : Bytes) :
    (∃ r key stream, s.registry.Inserted name true r key ∧ r.stream? key = some stream ∧
        s.attach name lastEventId =
          match (stream.subscribe s.now lastEventId).2 with
          | .error fault =>
            ({ s with registry := r.perform key s.now (.subscribe lastEventId) }, .error fault)
          | .ok (subscriber, replay) =>
            (s.opened name (r.perform key s.now (.subscribe lastEventId))
              { stream := key, subscriber, replay := replay.map (·.event) },
              .ok s.nextConnection)) ∨
      s.registry.key? name = none ∧ s.attach name lastEventId = (s, .error .streamNotFound) := by
  rw [s.attach_eq_attachTo hs name lastEventId]
  rcases s.resolve_cases name with ⟨r, key, hinserted, hresolve⟩ | ⟨hkey, hresolve⟩
  · left
    obtain ⟨stream, hstream, _⟩ := hinserted.exists_stream hs
    refine ⟨r, key, stream, hinserted, hstream, ?_⟩
    rw [hresolve]
    exact attachTo_eq { s with registry := r } name key lastEventId stream hstream
  · right
    rw [hresolve]
    exact ⟨hkey, rfl⟩

/-- A subscribe that succeeds makes the next connection. -/
theorem attach_cases (s : Server) (hs : s.registry.Sound) (name : String) (lastEventId : Bytes) :
    (∃ r key stream, s.registry.Inserted name true r key ∧ r.stream? key = some stream ∧
        ((∃ fault, s.attach name lastEventId =
            ({ s with registry := r.perform key s.now (.subscribe lastEventId) },
              .error fault)) ∨
          ∃ subscriber replay,
            (stream.subscribe s.now lastEventId).2 = .ok (subscriber, replay) ∧
            s.attach name lastEventId =
              (s.opened name (r.perform key s.now (.subscribe lastEventId))
                { stream := key, subscriber, replay := replay.map (·.event) },
                .ok s.nextConnection))) ∨
      s.registry.key? name = none ∧ s.attach name lastEventId = (s, .error .streamNotFound) := by
  rcases s.attach_eq hs name lastEventId with ⟨r, key, stream, hi, hstream, hattach⟩ | hnone
  · left
    refine ⟨r, key, stream, hi, hstream, ?_⟩
    cases hanswer : (stream.subscribe s.now lastEventId).2 with
    | error fault =>
      rw [hanswer] at hattach
      exact Or.inl ⟨fault, hattach⟩
    | ok answer =>
      rw [hanswer] at hattach
      exact Or.inr ⟨answer.1, answer.2, rfl, hattach⟩
  · exact Or.inr hnone

theorem connection?_opened (s : Server) (name : String) (r : Registry) (c : Connection)
    (n : Nat) :
    (s.opened name r c).connection? n =
      (s.connection? n).or (if n = s.nextConnection then some c else none) := by
  have hconnections :
      (s.opened name r c).connections = s.connections ++ [(s.nextConnection, c)] := by
    rw [opened, call_eq]
  unfold connection?
  rw [hconnections, List.lookup_append, List.lookup_cons, List.lookup_nil]
  by_cases hn : n = s.nextConnection
  · rw [if_pos hn, beq_iff_eq.mpr hn]
  · rw [if_neg hn, beq_eq_false_iff_ne.mpr hn]

theorem lookup_map_if {α : Type} (pairs : List (Nat × α)) (k n : Nat) (a : α) :
    (pairs.map fun (m, old) => (m, if m = k then a else old)).lookup n =
      if n = k then (pairs.lookup n).map fun _ => a else pairs.lookup n := by
  induction pairs with
  | nil => simp
  | cons pair rest ih =>
    obtain ⟨m, old⟩ := pair
    rw [List.map_cons, List.lookup_cons, List.lookup_cons, ih]
    by_cases hn : n = m
    · subst hn
      rw [beq_self_eq_true]
      by_cases hk : n = k
      · simp [hk]
      · simp [hk]
    · rw [beq_eq_false_iff_ne.mpr hn]

theorem connection?_setConnection (s : Server) (number n : Nat) (c : Connection) :
    (s.setConnection number c).connection? n =
      if n = number then (s.connection? n).map fun _ => c else s.connection? n :=
  lookup_map_if s.connections number n c

structure Attended (s : Server) (number : Nat) (c : Connection) (s' : Server) : Prop where
  served : s.registry.Served c.stream c.subscriber (!s.config.autoReplay) s'.registry
  others : ∀ n, n ≠ number → s'.connection? n = s.connection? n
  own : ∀ c', s'.connection? number = some c' →
    c'.stream = c.stream ∧ c'.subscriber = c.subscriber
  config : s'.config = s.config
  now : s'.now = s.now
  stopped : s'.stopped = s.stopped
  nextConnection : s'.nextConnection = s.nextConnection

theorem leave_eq (s : Server) (c : Connection) :
    s.leave c = { s with registry := (s.leave c).registry, calls := (s.leave c).calls } := by
  unfold leave
  cases s.registry.stream? c.stream with
  | none => rfl
  | some stream =>
    simp only
    rw [call_eq]

theorem served_leave (s : Server) (c : Connection) :
    s.registry.Served c.stream c.subscriber (!s.config.autoReplay) (s.leave c).registry := by
  unfold leave
  cases s.registry.stream? c.stream with
  | none => exact .refl
  | some stream =>
    simp only
    rw [call_eq]
    apply Served.own _ s.now (.drop c.subscriber) (by simp)
    have hleft : s.registry.Served c.stream c.subscriber (!s.config.autoReplay)
        (s.registry.perform c.stream s.now (.unsubscribe c.subscriber)) :=
      .own .refl s.now (.unsubscribe c.subscriber) (by simp)
    split
    · next hrelease =>
      rw [Bool.and_eq_true] at hrelease
      exact hleft.release hrelease.2
    · exact hleft

theorem connection?_disconnect (s : Server) (number n : Nat) :
    (s.disconnect number).connection? n = if n = number then none else s.connection? n := by
  unfold disconnect
  cases hc : s.connection? number with
  | none =>
    by_cases hn : n = number
    · rw [if_pos hn, hn]
      exact hc
    · rw [if_neg hn]
  | some c => exact Registry.lookup_filter_ne s.connections number n

theorem disconnect_eq (s : Server) (number : Nat) (c : Connection)
    (hc : s.connection? number = some c) :
    s.disconnect number =
      { s with
        registry := (s.leave c).registry
        calls := (s.leave c).calls
        connections := s.connections.filter (·.1 != number) } := by
  unfold disconnect
  rw [hc]
  simp only
  rw [leave_eq]

theorem attended_disconnect (s : Server) (number : Nat) (c : Connection)
    (hc : s.connection? number = some c) : s.Attended number c (s.disconnect number) := by
  have hdisconnect := s.disconnect_eq number c hc
  refine ⟨?_, ?_, ?_, ?_, ?_, ?_, ?_⟩
  · rw [hdisconnect]
    exact s.served_leave c
  · intro n hn
    rw [connection?_disconnect, if_neg hn]
  · intro c' hc'
    rw [connection?_disconnect, if_pos rfl] at hc'
    cases hc'
  all_goals rw [hdisconnect]

theorem Attended.trans {s s' s'' : Server} {number : Nat} {c c' : Connection}
    (h : s.Attended number c s') (hc' : s'.connection? number = some c')
    (h' : s'.Attended number c' s'') : s.Attended number c s'' := by
  obtain ⟨hstream, hsubscriber⟩ := h.own c' hc'
  have hserved := h'.served
  rw [hstream, hsubscriber, h.config] at hserved
  refine ⟨h.served.trans hserved, ?_, ?_, h'.config.trans h.config, h'.now.trans h.now,
    h'.stopped.trans h.stopped, h'.nextConnection.trans h.nextConnection⟩
  · intro n hn
    exact (h'.others n hn).trans (h.others n hn)
  · intro c'' hc''
    obtain ⟨hstream', hsubscriber'⟩ := h'.own c'' hc''
    exact ⟨hstream'.trans hstream, hsubscriber'.trans hsubscriber⟩

/-- The next frame of a connection takes at most the head of its queue. -/
theorem nextFrame_served (s : Server) (c : Connection) :
    s.registry.Served c.stream c.subscriber (!s.config.autoReplay) (s.nextFrame c).1 ∧
      (s.nextFrame c).2.1.stream = c.stream ∧
      (s.nextFrame c).2.1.subscriber = c.subscriber := by
  unfold nextFrame
  split
  · exact ⟨.refl, rfl, rfl⟩
  · split
    · exact ⟨.refl, rfl, rfl⟩
    · have hserved := s.registry.served_receive c.stream c.subscriber (!s.config.autoReplay)
      cases hreceived : s.registry.receive c.stream c.subscriber with
      | mk r received =>
        rw [hreceived] at hserved
        cases received with
        | event e => exact ⟨hserved, rfl, rfl⟩
        | closed => exact ⟨hserved, rfl, rfl⟩
        | nothing =>
          simp only
          split <;> exact ⟨hserved, rfl, rfl⟩

theorem attended_setConnection (s : Server) (number : Nat) (c c' : Connection) (r : Registry)
    (hserved : s.registry.Served c.stream c.subscriber (!s.config.autoReplay) r)
    (hc' : c'.stream = c.stream ∧ c'.subscriber = c.subscriber) :
    s.Attended number c (({ s with registry := r } : Server).setConnection number c') := by
  refine ⟨hserved, ?_, ?_, rfl, rfl, rfl, rfl⟩
  · intro n hn
    rw [connection?_setConnection, if_neg hn]
    rfl
  · intro c'' hc''
    rw [connection?_setConnection, if_pos rfl, Option.map_eq_some_iff] at hc''
    obtain ⟨_, _, rfl⟩ := hc''
    exact hc'

theorem poll_of_ended (s : Server) (number : Nat) (c c' : Connection) (r : Registry)
    (hc : s.connection? number = some c) (hnext : s.nextFrame c = (r, c', .ended)) :
    s.poll number =
      ((({ s with registry := r } : Server).setConnection number c').disconnect number,
        .ended) := by
  simp only [poll, hc, hnext]

theorem poll_of_ne_ended (s : Server) (number : Nat) (c c' : Connection) (r : Registry)
    (polled : Polled) (hc : s.connection? number = some c)
    (hnext : s.nextFrame c = (r, c', polled)) (hpolled : polled ≠ .ended) :
    s.poll number = (({ s with registry := r } : Server).setConnection number c', polled) := by
  cases polled with
  | ended => exact absurd rfl hpolled
  | frame bytes => simp only [poll, hc, hnext]
  | pending => simp only [poll, hc, hnext]

theorem attended_poll (s : Server) (number : Nat) (c : Connection)
    (hc : s.connection? number = some c) : s.Attended number c (s.poll number).1 := by
  obtain ⟨hserved, hc'⟩ := s.nextFrame_served c
  have hset := s.attended_setConnection number c _ _ hserved hc'
  by_cases hpolled : (s.nextFrame c).2.2 = .ended
  · have hfound : (({ s with registry := (s.nextFrame c).1 } : Server).setConnection number
        (s.nextFrame c).2.1).connection? number = some (s.nextFrame c).2.1 := by
      rw [connection?_setConnection, if_pos rfl]
      exact congrArg (Option.map fun _ => _) hc
    rw [s.poll_of_ended number c _ _ hc (by rw [← hpolled])]
    exact hset.trans hfound (attended_disconnect _ number _ hfound)
  · rw [s.poll_of_ne_ended number c _ _ _ hc rfl hpolled]
    exact hset

/-- A poll or the end of a connection does nothing if there is no such connection. -/
theorem step_connection (s : Server) (number : Nat) (op : Op)
    (hop : op = .poll number ∨ op = .disconnect number) :
    s.connection? number = none ∧ s.step op = s ∨
      ∃ c, s.connection? number = some c ∧ s.Attended number c (s.step op) := by
  cases hc : s.connection? number with
  | none =>
    left
    rcases hop with rfl | rfl
    · simp only [step, poll, hc, and_self]
    · simp only [step, disconnect, hc, and_self]
  | some c =>
    refine Or.inr ⟨c, rfl, ?_⟩
    rcases hop with rfl | rfl
    · exact s.attended_poll number c hc
    · exact s.attended_disconnect number c hc

end EventBroker.Server
