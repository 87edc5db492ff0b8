import EventBroker.Proofs.Server.Step

/-!
What always holds of a server. Two connections never share a subscriber, since a
subscriber's id is new when its connection is made.
-/
namespace EventBroker.Server

structure Sound (s : Server) : Prop where
  registry : s.registry.Sound
  number_lt : ∀ number c, s.connection? number = some c → number < s.nextConnection
  subscriber_lt : ∀ number c, s.connection? number = some c →
    ∃ stream, s.registry.stream? c.stream = some stream ∧ c.subscriber < stream.nextSubscriber
  separate : ∀ number number' c c', s.connection? number = some c →
    s.connection? number' = some c' → c.stream = c'.stream → c.subscriber = c'.subscriber →
    number = number'

/-- The number of the next connection stands for none yet. -/
theorem Sound.unused_number {s : Server} (hs : s.Sound) (number : Nat)
    (hnumber : number = s.nextConnection) : s.connection? number = none := by
  cases hc : s.connection? number with
  | none => rfl
  | some c =>
    have hlt := hs.number_lt number c hc
    omega

/-- The connections stay, and the streams they are attached to go on. -/
theorem Sound.of_extends {s : Server} (hs : s.Sound) (r : Registry) (hr : r.Sound)
    (hextends : s.registry.Extends r) (s' : Server) (hregistry : s'.registry = r)
    (hconnections : s'.connections = s.connections)
    (hnext : s'.nextConnection = s.nextConnection) : s'.Sound := by
  have hlookup : ∀ n, s'.connection? n = s.connection? n := by
    intro n
    rw [connection?, hconnections]
    rfl
  refine ⟨?_, ?_, ?_, ?_⟩
  · rw [hregistry]
    exact hr
  · intro number c hc
    rw [hnext]
    exact hs.number_lt number c (by rw [← hlookup]; exact hc)
  · intro number c hc
    rw [hlookup] at hc
    obtain ⟨stream, hstream, hlt⟩ := hs.subscriber_lt number c hc
    obtain ⟨stream', hstream', hle⟩ := hextends c.stream stream hstream
    rw [hregistry]
    exact ⟨stream', hstream', Nat.lt_of_lt_of_le hlt hle⟩
  · intro number number' c c' hc hc'
    rw [hlookup] at hc hc'
    exact hs.separate number number' c c' hc hc'

theorem Sound.attended {s s' : Server} (hs : s.Sound) (number : Nat) (c : Connection)
    (hc : s.connection? number = some c) (h : s.Attended number c s') : s'.Sound := by
  -- A connection of the new table stands for one of the old table.
  have hold : ∀ n c', s'.connection? n = some c' →
      ∃ old, s.connection? n = some old ∧ c'.stream = old.stream ∧
        c'.subscriber = old.subscriber := by
    intro n c' hc'
    by_cases hn : n = number
    · rw [hn] at hc' ⊢
      exact ⟨c, hc, h.own c' hc'⟩
    · rw [h.others n hn] at hc'
      exact ⟨c', hc', rfl, rfl⟩
  refine ⟨h.served.sound hs.registry, ?_, ?_, ?_⟩
  · intro n c' hc'
    obtain ⟨old, hfound, _⟩ := hold n c' hc'
    rw [h.nextConnection]
    exact hs.number_lt n old hfound
  · intro n c' hc'
    obtain ⟨old, hfound, hstream, hsubscriber⟩ := hold n c' hc'
    obtain ⟨stream, hkey, hlt⟩ := hs.subscriber_lt n old hfound
    obtain ⟨stream', hkey', hle⟩ := h.served.extends old.stream stream hkey
    rw [hstream, hsubscriber]
    exact ⟨stream', hkey', Nat.lt_of_lt_of_le hlt hle⟩
  · intro n n' c₁ c₂ hc₁ hc₂ hstream hsubscriber
    obtain ⟨old₁, hfound₁, hstream₁, hsubscriber₁⟩ := hold n c₁ hc₁
    obtain ⟨old₂, hfound₂, hstream₂, hsubscriber₂⟩ := hold n' c₂ hc₂
    exact hs.separate n n' old₁ old₂ hfound₁ hfound₂
      (hstream₁.symm.trans (hstream.trans hstream₂))
      (hsubscriber₁.symm.trans (hsubscriber.trans hsubscriber₂))

/-- A new connection has a new number and a new subscriber. -/
theorem Sound.opened {s : Server} (hs : s.Sound) (name : String) (r : Registry) (key : Nat)
    (stream : EventStream) (hinserted : s.registry.Inserted name true r key)
    (hstream : r.stream? key = some stream) (lastEventId : Bytes) (subscriber : Nat)
    (replay : List Stored)
    (hok : (stream.subscribe s.now lastEventId).2 = .ok (subscriber, replay)) :
    (s.opened name (r.perform key s.now (.subscribe lastEventId))
      { stream := key, subscriber, replay := replay.map (·.event) }).Sound := by
  let c : Connection := { stream := key, subscriber, replay := replay.map (·.event) }
  let r' := r.perform key s.now (.subscribe lastEventId)
  obtain ⟨_, hid, hlt, _⟩ := stream.subscribe_ok s.now lastEventId subscriber replay hok
  have hextends : s.registry.Extends r' :=
    hinserted.extends.trans (r.extends_perform key s.now _)
  have hregistry : (s.opened name r' c).registry = r' := by rw [Server.opened, call_eq]
  have hnext : (s.opened name r' c).nextConnection = s.nextConnection + 1 := by
    rw [Server.opened, call_eq]
  have hfound : r'.stream? key = some (stream.perform s.now (.subscribe lastEventId)) := by
    rw [Registry.stream?_perform, if_pos rfl, hstream]
    rfl
  have hcases : ∀ n c', (s.opened name r' c).connection? n = some c' →
      s.connection? n = some c' ∨ n = s.nextConnection ∧ c' = c := by
    intro n c' hc'
    rw [connection?_opened, Option.or_eq_some_iff] at hc'
    rcases hc' with hc' | ⟨_, hc'⟩
    · exact Or.inl hc'
    · split at hc'
      · next hn => exact Or.inr ⟨hn, (Option.some.inj hc').symm⟩
      · cases hc'
  -- Nobody was given this id before.
  have hfresh : ∀ n old, s.connection? n = some old → old.stream = key →
      old.subscriber ≠ subscriber := by
    intro n old hold hkey hsame
    obtain ⟨stream', hstream', hlt'⟩ := hs.subscriber_lt n old hold
    rw [hkey] at hstream'
    obtain rfl : stream' = stream :=
      Option.some.inj ((hinserted.streams key stream' hstream').symm.trans hstream)
    omega
  refine ⟨?_, ?_, ?_, ?_⟩
  · rw [hregistry]
    exact (hinserted.sound hs.registry).perform key s.now _ (Or.inl rfl)
  · intro n c' hc'
    rw [hnext]
    rcases hcases n c' hc' with hold | ⟨hn, _⟩
    · have hlt := hs.number_lt n c' hold
      omega
    · omega
  · intro n c' hc'
    rw [hregistry]
    rcases hcases n c' hc' with hold | ⟨_, rfl⟩
    · obtain ⟨stream', hstream', hlt'⟩ := hs.subscriber_lt n c' hold
      obtain ⟨stream'', hstream'', hle⟩ := hextends c'.stream stream' hstream'
      exact ⟨stream'', hstream'', Nat.lt_of_lt_of_le hlt' hle⟩
    · exact ⟨_, hfound, hlt⟩
  · intro n n' c₁ c₂ hc₁ hc₂ hkey hsubscriber
    rcases hcases n c₁ hc₁ with hold₁ | ⟨hn₁, rfl⟩
    · rcases hcases n' c₂ hc₂ with hold₂ | ⟨hn₂, rfl⟩
      · exact hs.separate n n' c₁ c₂ hold₁ hold₂ hkey hsubscriber
      · exact absurd hsubscriber (hfresh n c₁ hold₁ hkey)
    · rcases hcases n' c₂ hc₂ with hold₂ | ⟨hn₂, _⟩
      · exact absurd hsubscriber.symm (hfresh n' c₂ hold₂ hkey.symm)
      · exact hn₁.trans hn₂.symm

theorem Sound.step {s : Server} (hs : s.Sound) (op : Op) : (s.step op).Sound := by
  have hconnection : ∀ number op, op = .poll number ∨ op = .disconnect number →
      (s.step op).Sound := by
    intro number op hop
    rcases s.step_connection number op hop with ⟨_, hsame⟩ | ⟨c, hc, hattended⟩
    · rw [hsame]
      exact hs
    · exact hs.attended number c hc hattended
  cases op with
  | createStream name =>
    have hinserted := s.registry.inserted_insert name false
    exact hs.of_extends _ (hinserted.sound hs.registry) hinserted.extends _ rfl rfl rfl
  | removeStream name =>
    exact hs.of_extends _ (hs.registry.remove name) (s.registry.extends_remove name) _ rfl rfl rfl
  | publish name e =>
    rcases s.publish_cases hs.registry name e with
      ⟨r, key, stream, hinserted, hstream, hpublish⟩ | ⟨_, hpublish⟩
    · rw [Server.step, hpublish]
      exact hs.of_extends _ ((hinserted.sound hs.registry).perform key s.now _ (Or.inl rfl))
        (hinserted.extends.trans (r.extends_perform key s.now _)) _ rfl rfl rfl
    · rw [Server.step, hpublish]
      exact hs
  | attach name lastEventId =>
    rcases s.attach_cases hs.registry name lastEventId with
      ⟨r, key, stream, hinserted, hstream, ⟨fault, hattach⟩ | ⟨subscriber, replay, hok, hattach⟩⟩ |
        ⟨_, hattach⟩
    · rw [Server.step, hattach]
      exact hs.of_extends _ ((hinserted.sound hs.registry).perform key s.now _ (Or.inl rfl))
        (hinserted.extends.trans (r.extends_perform key s.now _)) _ rfl rfl rfl
    · rw [Server.step, hattach]
      exact hs.opened name r key stream hinserted hstream lastEventId subscriber replay hok
    · rw [Server.step, hattach]
      exact hs
  | poll number => exact hconnection number _ (Or.inl rfl)
  | disconnect number => exact hconnection number _ (Or.inr rfl)
  | advance d => exact hs.of_extends _ hs.registry (.refl _) _ rfl rfl rfl
  | stop =>
    exact hs.of_extends _ hs.registry.removeAll s.registry.extends_removeAll _ rfl rfl rfl

theorem sound_ofConfig (config : ServerConfig) : (ofConfig config).Sound := by
  refine ⟨⟨?_, ?_⟩, ?_, ?_, ?_⟩
  · intro name key hkey
    cases hkey
  · intro key stream hstream
    cases hstream
  · intro number c hc
    cases hc
  · intro number c hc
    cases hc
  · intro number number' c c' hc
    cases hc

/-- A server runs until it is stopped, and no number of a connection is used again. -/
theorem step_frame (s : Server) (hs : s.Sound) (op : Op) (hop : op ≠ .stop) :
    (s.step op).config = s.config ∧ (s.step op).stopped = s.stopped ∧
      s.nextConnection ≤ (s.step op).nextConnection := by
  have hconnection : ∀ number op, op = .poll number ∨ op = .disconnect number →
      (s.step op).config = s.config ∧ (s.step op).stopped = s.stopped ∧
        s.nextConnection ≤ (s.step op).nextConnection := by
    intro number op hop
    rcases s.step_connection number op hop with ⟨_, hsame⟩ | ⟨c, _, hattended⟩
    · rw [hsame]
      exact ⟨rfl, rfl, Nat.le_refl _⟩
    · exact ⟨hattended.config, hattended.stopped, Nat.le_of_eq hattended.nextConnection.symm⟩
  cases op with
  | publish name e =>
    rcases s.publish_cases hs.registry name e with ⟨r, key, stream, _, _, hpublish⟩ | ⟨_, hpublish⟩
    · rw [step, hpublish]
      exact ⟨rfl, rfl, Nat.le_refl _⟩
    · rw [step, hpublish]
      exact ⟨rfl, rfl, Nat.le_refl _⟩
  | attach name lastEventId =>
    rcases s.attach_cases hs.registry name lastEventId with
      ⟨r, key, stream, _, _, ⟨fault, hattach⟩ | ⟨subscriber, replay, _, hattach⟩⟩ | ⟨_, hattach⟩
    · rw [step, hattach]
      exact ⟨rfl, rfl, Nat.le_refl _⟩
    · rw [step, hattach, opened, call_eq]
      exact ⟨rfl, rfl, Nat.le_succ _⟩
    · rw [step, hattach]
      exact ⟨rfl, rfl, Nat.le_refl _⟩
  | poll number => exact hconnection number _ (Or.inl rfl)
  | disconnect number => exact hconnection number _ (Or.inr rfl)
  | createStream | removeStream | advance => exact ⟨rfl, rfl, Nat.le_refl _⟩
  | stop => exact absurd rfl hop

end EventBroker.Server
