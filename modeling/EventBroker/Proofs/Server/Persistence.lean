import EventBroker.Proofs.Server.Release

/-!
How long a name that was created leads to a stream. A creation that finds a stream which a
publish or a request made leaves its mark as it is, so that without replay this stream goes
with its last connection all the same. Every other name that was created is kept until it is
removed or the server is stopped.
-/
namespace EventBroker.Server.History

variable {config : ServerConfig} {start h : History}

def since (start h : History) : List Moment := h.past.drop start.past.length

theorem Continues.since_step (hc : start.Continues h) (op : Op) :
    start.since (h.step op) = start.since h ++ [h.moment op] := by
  have hlength : start.past.length ≤ h.past.length := by
    refine hc.of_step (P := fun h => start.past.length ≤ h.past.length) (Nat.le_refl _) ?_
    intro h _ hle op
    rw [History.step, List.length_append]
    omega
  exact List.drop_append_of_le_length hlength

/-- How a stream came into being does not change any more. -/
theorem Reachable.implicit_eq (hr : start.Reachable config) (hc : start.Continues h) (key : Nat)
    (hmade : start.server.registry.stream? key ≠ none) : h.implicit key = start.implicit key := by
  refine (Continues.of_step hc (P := fun h => h.server.registry.stream? key ≠ none ∧
    h.implicit key = start.implicit key) ⟨hmade, rfl⟩ ?_).2
  intro h hc ⟨hfound, hsame⟩ op
  have hs := (Reachable.recorded (hr.trans hc)).sound
  obtain ⟨stream, hstream⟩ := Option.ne_none_iff_exists'.mp hfound
  refine ⟨?_, ?_⟩
  · intro hnone
    exact hfound ((h.server.reaches_step hs.registry op).unused key hnone)
  · rw [h.implicit_step_of_stream? op key stream hstream]
    exact hsame

def LastLeft (start h : History) (key : Nat) : Prop :=
  ∃ m ∈ start.since h, ∃ number c stream, m.drops number c ∧ c.stream = key ∧
    m.server.registry.stream? key = some stream ∧ stream.IsLast c.subscriber

theorem LastLeft.step {key : Nat} (hl : start.LastLeft h key) (hc : start.Continues h) (op : Op) :
    start.LastLeft (h.step op) key := by
  obtain ⟨m, hm, hleft⟩ := hl
  refine ⟨m, ?_, hleft⟩
  rw [hc.since_step op]
  exact List.mem_append_left _ hm

/-- A name leads to the same stream until it is removed, the server is stopped, or the last
connection leaves an implicit stream without replay. -/
theorem Reachable.key?_of_continues (hr : start.Reachable config) (name : String) (key : Nat)
    (hkey : start.server.registry.key? name = some key) (hc : start.Continues h)
    (hkept : ∀ m ∈ start.since h, m.op ≠ .removeStream name ∧ m.op ≠ .stop) :
    h.server.registry.key? name = some key ∨
      config.autoReplay = false ∧ start.implicit key = true ∧ start.LastLeft h key := by
  refine Continues.of_step hc (P := fun h =>
    (∀ m ∈ start.since h, m.op ≠ .removeStream name ∧ m.op ≠ .stop) →
      h.server.registry.key? name = some key ∨
        config.autoReplay = false ∧ start.implicit key = true ∧ start.LastLeft h key)
    (fun _ => Or.inl hkey) ?_ hkept
  intro h (hc : start.Continues h) ih op hkept
  have hreachable : h.Reachable config := hr.trans hc
  rw [hc.since_step op] at hkept
  rcases ih fun m hm => hkept m (List.mem_append_left _ hm) with hbefore | ⟨hreplay, himplicit, hleft⟩
  · by_cases hafter : (h.step op).server.registry.key? name = some key
    · exact Or.inl hafter
    · right
      have hop := hkept (h.moment op) (List.mem_append_right _ (List.mem_singleton_self _))
      have hgone : (h.moment op).unregisters name key := ⟨hbefore, hafter⟩
      rcases Moment.op_of_unregisters hreachable.recorded.sound hgone with
        hremove | hstop | ⟨number, c, hdrops⟩
      · exact absurd hremove hop.1
      · exact absurd hstop hop.2
      · obtain ⟨stream, hstream, _⟩ := hreachable.attached number c hdrops.1
        obtain ⟨hreleases, _, rfl⟩ :=
          (hreachable.unregisters_iff hdrops hstream name key).mp hgone
        have hreplay : config.autoReplay = false := by
          rw [← hreachable.recorded.config_eq]
          exact hreleases.replayOff
        obtain ⟨old, hold, _⟩ := hr.recorded.sound.registry.named name c.stream hkey
        have hmade : start.server.registry.stream? c.stream ≠ none := by
          rw [hold]
          exact Option.some_ne_none old
        refine ⟨hreplay, (hr.implicit_eq hc c.stream hmade).symm.trans hreleases.implicit,
          h.moment op, ?_, number, c, stream, hdrops, rfl, hstream, hreleases.last⟩
        rw [hc.since_step op]
        exact List.mem_append_right _ (List.mem_singleton_self _)
  · exact Or.inr ⟨hreplay, himplicit, hleft.step hc op⟩

/-- A name that was created leads to a stream until it is removed or the server is stopped; only
where replay is off and the creation found a stream that had come into being implicitly, the
name also goes with the last connection of this stream. -/
theorem created_persists (config : ServerConfig) (h : History) (hr : h.Reachable config)
    (name : String) (h' : History) (hc : (h.step (.createStream name)).Continues h')
    (hkept : ∀ m ∈ (h.step (.createStream name)).since h',
      m.op ≠ .removeStream name ∧ m.op ≠ .stop) :
    h'.server.streamExists name = true ∨
      config.autoReplay = false ∧ ∃ key, h.server.registry.key? name = some key ∧
        h.implicit key = true ∧ (h.step (.createStream name)).LastLeft h' key := by
  have hinserted := h.server.registry.inserted_insert name false
  let key := (h.server.registry.insert name false).2
  have hkey : (h.step (.createStream name)).server.registry.key? name = some key :=
    hinserted.key_eq
  have hcreated : (h.step (.createStream name)).Reachable config := hr.step (.createStream name)
  rcases hcreated.key?_of_continues name key hkey hc hkept with hfound | ⟨hreplay, himplicit, hleft⟩
  · left
    rw [streamExists, Registry.contains, hfound]
    rfl
  · right
    -- The creation made no implicit stream, so it found this one.
    have hbefore : h.implicit key = true := by
      rw [h.implicit_step (.createStream name) key] at himplicit
      simpa [Op.isImplicit] using himplicit
    refine ⟨hreplay, key, ?_, hbefore, hleft⟩
    rcases hinserted.fresh with hfound | ⟨hnone, _⟩
    · exact hfound
    · cases hbefore.symm.trans (hr.made.unused key (hinserted.unused hnone))

/-- The stream `news` that the first connection made is gone with it. The name is created, and
another connection comes and goes. -/
def recreated : History :=
  ofOps { autoStream := true, autoReplay := false } [.attach "news" [], .disconnect 0]

theorem created_persists_recreated :
    recreated.Reachable { autoStream := true, autoReplay := false } ∧
      ((recreated.step (.createStream "news")).run
        [.attach "news" [], .disconnect 1]).server.streamExists "news" = true := by
  have hr : recreated.Reachable { autoStream := true, autoReplay := false } := reachable_ofOps _ _
  have hpersists := created_persists _ recreated hr "news" _
    (Continues.refl.run [.attach "news" [], .disconnect 1]) (by decide +kernel)
  rcases hpersists with hexists | ⟨_, key, hkey, _⟩
  · exact ⟨hr, hexists⟩
  · have hnone : recreated.server.registry.key? "news" = none := by decide +kernel
    cases hnone.symm.trans hkey

def adopted : History :=
  ofOps { autoStream := true, autoReplay := false } [.attach "news" []]

/-- It is not so that whatever was made before the creation the name is kept: the creation of
`news` does not hold a stream that its connection made. -/
theorem created_is_released :
    ¬∀ (config : ServerConfig) (h : History) (name : String) (h' : History),
      h.Reachable config → (h.step (.createStream name)).Continues h' →
      (∀ m ∈ (h.step (.createStream name)).since h', m.op ≠ .removeStream name ∧ m.op ≠ .stop) →
      h'.server.streamExists name = true := by
  intro hall
  have hexists := hall { autoStream := true, autoReplay := false } adopted "news" _
    (reachable_ofOps _ _) (Continues.refl.run [.disconnect 0]) (by decide +kernel)
  have hgone : ((adopted.step (.createStream "news")).run
      [.disconnect 0]).server.streamExists "news" = false := by decide +kernel
  cases hgone.symm.trans hexists

end EventBroker.Server.History
