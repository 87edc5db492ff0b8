import EventBroker.Proofs.Server.Streams

/-!
When a stream loses its name. Apart from its removal and the stop of the server that happens
only as a connection goes: the stream must have come into being implicitly, replay must be
off, the name must still lead to this very stream, and nobody else may be attached to it.
Nothing else loses its name then, whichever stream has the name by now.
-/
namespace EventBroker

namespace EventStream

theorem receive_of_closed (s : EventStream) (id : Nat) (h : (s.receive id).2 = .closed) :
    (s.receive id).1 = s := by
  unfold receive at h ⊢
  cases hsub : s.subscription? id with
  | none => rfl
  | some sub =>
    cases hqueue : sub.queue with
    | nil => simp only [hqueue]
    | cons e rest =>
      simp only [hsub, hqueue] at h
      cases h

end EventStream

namespace Registry

/-- What a name leads to is not removed. -/
theorem Sound.removed_of_key? {r : Registry} (hs : r.Sound) {name : String} {key : Nat}
    (hkey : r.key? name = some key) {stream : EventStream}
    (hstream : r.stream? key = some stream) : stream.removed = false := by
  obtain ⟨stream', hstream', _, hremoved⟩ := hs.named name key hkey
  obtain rfl : stream' = stream := Option.some.inj (hstream'.symm.trans hstream)
  exact hremoved

/-- A release takes away at most the name of the stream. -/
theorem key?_releaseIfIdle (r : Registry) (key : Nat) (stream : EventStream)
    (hstream : r.stream? key = some stream) (name : String) :
    (r.releaseIfIdle key).1.key? name =
      if (r.key? stream.name = some key ∧ stream.auto = true ∧ stream.isIdle = true) ∧
          name = stream.name then none
      else r.key? name := by
  rw [r.releaseIfIdle_eq key 0 stream hstream]
  by_cases hreleased : r.key? stream.name = some key ∧ stream.auto = true ∧ stream.isIdle = true
  · rw [if_pos hreleased]
    by_cases hname : name = stream.name
    · rw [if_pos ⟨hreleased, hname⟩]
      exact (r.key?_forget stream.name name).trans (if_pos hname)
    · rw [if_neg fun h => hname h.2]
      exact (r.key?_forget stream.name name).trans (if_neg hname)
  · rw [if_neg hreleased, if_neg fun h => hreleased h.1]

theorem key?_remove (r : Registry) (name n : String) :
    (r.remove name).1.key? n = if n = name then none else r.key? n := by
  unfold remove
  cases hkey : r.key? name with
  | none =>
    by_cases hn : n = name
    · rw [if_pos hn, hn]
      exact hkey
    · rw [if_neg hn]
  | some key => exact r.key?_forget name n

theorem receive_of_closed (r : Registry) (key id : Nat) (h : (r.receive key id).2 = .closed) :
    (r.receive key id).1 = r := by
  unfold receive at h ⊢
  cases hstream : r.stream? key with
  | none => rfl
  | some stream =>
    simp only [hstream] at h
    have hmodify := r.modify_of_stream? key stream hstream (fun _ => (stream.receive id).1)
      (fun stream => stream) (stream.receive_of_closed id h)
    have hsame : r.objects.modify key (fun stream => stream) = r.objects :=
      List.modify_id key r.objects
    exact hmodify.trans (by rw [modify, hsame])

theorem key?_receive (r : Registry) (key id : Nat) (name : String) :
    (r.receive key id).1.key? name = r.key? name := by
  unfold receive
  cases r.stream? key <;> rfl

/-- What was logged on the streams of `r`, and how far their ids are, is the same in `r'`. -/
def KeepsLogs (r r' : Registry) : Prop :=
  ∀ key stream, r.stream? key = some stream → ∃ stream', r'.stream? key = some stream' ∧
    stream'.replay = stream.replay ∧ stream'.sequence = stream.sequence

/-- As long as no stream is released the connections leave the logs alone. -/
theorem Served.keepsLogs {r r' : Registry} {key id : Nat} (h : r.Served key id false r') :
    r.KeepsLogs r' := by
  induction h with
  | refl => exact fun _ stream hstream => ⟨stream, hstream, rfl, rfl⟩
  | own h now op hop ih =>
    intro k stream hstream
    obtain ⟨stream', hstream', hreplay, hsequence⟩ := ih k stream hstream
    rw [stream?_perform, hstream']
    by_cases hk : k = key
    · rw [if_pos hk]
      have hquiet : op.isQuiet = true := by
        simp only [List.mem_cons, List.not_mem_nil, or_false] at hop
        rcases hop with rfl | rfl | rfl <;> rfl
      have hperform := stream'.perform_of_isQuiet now op hquiet
      have hlog : (stream'.perform now op).replay = stream'.replay := by rw [hperform]
      have hids : (stream'.perform now op).sequence = stream'.sequence := by rw [hperform]
      exact ⟨_, rfl, hlog.trans hreplay, hids.trans hsequence⟩
    · rw [if_neg hk]
      exact ⟨stream', rfl, hreplay, hsequence⟩
  | release h hreleases ih => cases hreleases

end Registry

namespace Server

theorem registry_leave (s : Server) (c : Connection) (stream : EventStream)
    (hstream : s.registry.stream? c.stream = some stream) :
    (s.leave c).registry =
      Registry.perform
        (if stream.auto && !s.config.autoReplay then
          ((s.registry.perform c.stream 0 (.unsubscribe c.subscriber)).releaseIfIdle c.stream).1
        else s.registry.perform c.stream 0 (.unsubscribe c.subscriber))
        c.stream 0 (.drop c.subscriber) := by
  unfold leave
  rw [hstream]
  simp only
  rw [call_eq]
  rfl

/-- A connection that goes takes at most the name of its stream away. -/
theorem key?_leave (s : Server) (c : Connection) (stream : EventStream)
    (hstream : s.registry.stream? c.stream = some stream) (name : String) :
    (s.leave c).registry.key? name =
      if (s.config.autoReplay = false ∧ s.registry.key? stream.name = some c.stream ∧
          stream.auto = true ∧ (stream.unsubscribe c.subscriber).isIdle = true) ∧
          name = stream.name then none
      else s.registry.key? name := by
  have hleft : (s.registry.perform c.stream 0 (.unsubscribe c.subscriber)).stream? c.stream =
      some (stream.unsubscribe c.subscriber) := by
    rw [Registry.stream?_perform, if_pos rfl, hstream]
    rfl
  have hrelease := Registry.key?_releaseIfIdle _ c.stream _ hleft name
  rw [s.registry_leave c stream hstream]
  by_cases hoff : (stream.auto && !s.config.autoReplay) = true
  · rw [if_pos hoff]
    rw [Bool.and_eq_true, Bool.not_eq_true'] at hoff
    refine hrelease.trans ?_
    simp only [hoff.2, true_and]
    rfl
  · rw [if_neg hoff, if_neg]
    · rfl
    · rintro ⟨⟨hreplay, _, hauto, _⟩, _⟩
      rw [hauto, hreplay] at hoff
      exact hoff rfl

/-- Before a connection ends by itself it takes nothing. -/
theorem nextFrame_of_ended (s : Server) (c : Connection) (h : (s.nextFrame c).2.2 = .ended) :
    s.nextFrame c = (s.registry, c, .ended) := by
  unfold nextFrame at h ⊢
  split
  · rfl
  · next hrunning =>
    rw [if_neg hrunning] at h
    split
    · next hreplay =>
      rw [hreplay] at h
      cases h
    · next hreplay =>
      rw [hreplay] at h
      have hclosed := s.registry.receive_of_closed c.stream c.subscriber
      cases hreceived : s.registry.receive c.stream c.subscriber with
      | mk r received =>
        simp only [hreceived] at h hclosed ⊢
        cases received with
        | event e => cases h
        | closed => rw [hclosed rfl]
        | nothing =>
          simp only at h
          split at h <;> cases h

theorem key?_nextFrame (s : Server) (c : Connection) (name : String) :
    (s.nextFrame c).1.key? name = s.registry.key? name := by
  unfold nextFrame
  split
  · rfl
  · split
    · rfl
    · have hreceive := s.registry.key?_receive c.stream c.subscriber name
      cases hreceived : s.registry.receive c.stream c.subscriber with
      | mk r received =>
        rw [hreceived] at hreceive
        cases received with
        | event e => exact hreceive
        | closed => exact hreceive
        | nothing =>
          simp only
          split <;> exact hreceive

theorem registry_leave_congr (s s' : Server) (c : Connection) (hregistry : s'.registry = s.registry)
    (hconfig : s'.config = s.config) : (s'.leave c).registry = (s.leave c).registry := by
  cases hstream : s.registry.stream? c.stream with
  | none =>
    simp only [leave, hregistry, hstream]
  | some stream =>
    have hstream' : s'.registry.stream? c.stream = some stream := by rw [hregistry, hstream]
    rw [s.registry_leave c stream hstream, s'.registry_leave c stream hstream', hregistry, hconfig]

theorem registry_disconnect (s : Server) (number : Nat) (c : Connection)
    (hc : s.connection? number = some c) :
    (s.disconnect number).registry = (s.leave c).registry := by
  unfold disconnect
  rw [hc]

/-- A poll ends the connection, or it leaves the connection open and all names as they are. -/
theorem poll_cases (s : Server) (number : Nat) (c : Connection)
    (hc : s.connection? number = some c) :
    (s.poll number).1.connection? number = none ∧
        (s.poll number).1.registry = (s.leave c).registry ∨
      (∃ c', (s.poll number).1.connection? number = some c') ∧
        ∀ name, (s.poll number).1.registry.key? name = s.registry.key? name := by
  have hset (r : Registry) (c' : Connection) :
      (({ s with registry := r } : Server).setConnection number c').connection? number =
        some c' := by
    rw [connection?_setConnection, if_pos rfl]
    exact congrArg (Option.map fun _ => c') hc
  by_cases hended : (s.nextFrame c).2.2 = .ended
  · left
    rw [s.poll_of_ended number c c s.registry hc (s.nextFrame_of_ended c hended)]
    refine ⟨?_, ?_⟩
    · rw [connection?_disconnect, if_pos rfl]
    · rw [registry_disconnect _ number c (hset s.registry c)]
      exact registry_leave_congr s _ c rfl rfl
  · right
    rw [s.poll_of_ne_ended number c _ _ _ hc rfl hended]
    exact ⟨⟨_, hset _ _⟩, s.key?_nextFrame c⟩

/-- Only a removal, the stop of the server, and what closes a connection take names away. -/
theorem key?_step_of_other (s : Server) (hs : s.Sound) (op : Op) (name : String) (key : Nat)
    (hkey : s.registry.key? name = some key) (hremove : op ≠ .removeStream name)
    (hstop : op ≠ .stop) (hown : ¬∃ number, op = .poll number ∨ op = .disconnect number) :
    (s.step op).registry.key? name = some key := by
  by_cases hother : ∃ n, op = .removeStream n
  · obtain ⟨n, rfl⟩ := hother
    have hn : name ≠ n := fun heq => hremove (by rw [heq])
    exact (s.registry.key?_remove n name).trans ((if_neg hn).trans hkey)
  · have hresolved := s.resolved_step hs.registry op (not_exists.mp hother) hstop hown
    exact hresolved.key?_of_some hkey

namespace Moment

def drops (m : Moment) (number : Nat) (c : Connection) : Prop :=
  m.server.connection? number = some c ∧ m.after.connection? number = none

def unregisters (m : Moment) (name : String) (key : Nat) : Prop :=
  m.server.registry.key? name = some key ∧ m.after.registry.key? name ≠ some key

/-- A connection is closed by its own poll or disconnect. -/
theorem op_of_drops {m : Moment} (hs : m.server.Sound) {number : Nat} {c : Connection}
    (h : m.drops number c) : m.op = .poll number ∨ m.op = .disconnect number := by
  by_contra hown
  have hsame := m.server.connection?_step_of_other hs number m.op (not_or.mp hown)
    fun name lastEventId _ => m.server.attach_ne_ok_of_lt hs number (hs.number_lt number c h.1) name
      lastEventId
  cases h.2.symm.trans (hsame.trans h.1)

/-- However a connection is closed, it leaves its stream. -/
theorem registry_of_drops {m : Moment} (hs : m.server.Sound) {number : Nat} {c : Connection}
    (h : m.drops number c) : m.after.registry = (m.server.leave c).registry := by
  obtain ⟨s, op⟩ := m
  rcases op_of_drops hs h with rfl | rfl
  · rcases s.poll_cases number c h.1 with ⟨_, hregistry⟩ | ⟨⟨c', hc'⟩, _⟩
    · exact hregistry
    · cases h.2.symm.trans hc'
  · exact s.registry_disconnect number c h.1

/-- Whatever takes a name away is its removal, the stop of the server, or closes a connection. -/
theorem op_of_unregisters {m : Moment} (hs : m.server.Sound) {name : String} {key : Nat}
    (h : m.unregisters name key) :
    m.op = .removeStream name ∨ m.op = .stop ∨ ∃ number c, m.drops number c := by
  obtain ⟨s, op⟩ := m
  obtain ⟨hkey, hgone⟩ := h
  by_cases hown : ∃ number, op = .poll number ∨ op = .disconnect number
  · right; right
    obtain ⟨number, hop⟩ := hown
    cases hc : s.connection? number with
    | none =>
      rcases s.step_connection number op hop with ⟨_, hsame⟩ | ⟨c, hc', _⟩
      · refine (hgone ?_).elim
        rw [after, hsame]
        exact hkey
      · cases hc.symm.trans hc'
    | some c =>
      refine ⟨number, c, hc, ?_⟩
      rcases hop with rfl | rfl
      · rcases s.poll_cases number c hc with ⟨hclosed, _⟩ | ⟨_, hnames⟩
        · exact hclosed
        · exact (hgone ((hnames name).trans hkey)).elim
      · exact (s.connection?_disconnect number number).trans (if_pos rfl)
  · by_cases hremove : op = .removeStream name
    · exact Or.inl hremove
    · by_cases hstop : op = .stop
      · exact Or.inr (Or.inl hstop)
      · exact (hgone (s.key?_step_of_other hs op name key hkey hremove hstop hown)).elim

end Moment

namespace History

variable {config : ServerConfig} {h : History}

/-- What it takes for a connection that goes to take away the name of its stream: the stream
came into being implicitly and is the one of its name, replay is off, and nobody else is
attached. -/
structure Releases (h : History) (c : Connection) (stream : EventStream) : Prop where
  replayOff : h.server.config.autoReplay = false
  implicit : h.implicit c.stream = true
  current : h.server.registry.key? stream.name = some c.stream
  last : stream.IsLast c.subscriber

/-- The stream of a name is not removed, so that its connections are registered. -/
theorem Reachable.isRegistered_of_current (hr : h.Reachable config) (number : Nat)
    (c : Connection) (hc : h.server.connection? number = some c) (stream : EventStream)
    (hstream : h.server.registry.stream? c.stream = some stream)
    (hcurrent : h.server.registry.key? stream.name = some c.stream) :
    stream.isRegistered c.subscriber = true := by
  obtain ⟨stream', hstream', hregistered⟩ := hr.attached number c hc
  obtain rfl : stream' = stream := Option.some.inj (hstream'.symm.trans hstream)
  rw [hr.recorded.sound.registry.removed_of_key? hcurrent hstream] at hregistered
  exact hregistered

/-- Of the stream of an open connection the server can tell whether it will be released. -/
theorem Reachable.releases_iff (hr : h.Reachable config) (number : Nat) (c : Connection)
    (hc : h.server.connection? number = some c) (stream : EventStream)
    (hstream : h.server.registry.stream? c.stream = some stream) :
    h.Releases c stream ↔ h.server.config.autoReplay = false ∧
      h.server.registry.key? stream.name = some c.stream ∧ stream.auto = true ∧
      (stream.unsubscribe c.subscriber).isIdle = true := by
  have hdistinct := hr.made.distinct c.stream stream hstream
  have hauto := hr.made.auto_eq c.stream stream hstream
  constructor
  · intro hreleases
    exact ⟨hreleases.replayOff, hreleases.current, hauto.trans hreleases.implicit,
      (hdistinct.isIdle_unsubscribe c.subscriber hreleases.last.registered).mpr hreleases.last⟩
  · rintro ⟨hreplay, hcurrent, himplicit, hidle⟩
    have hregistered := hr.isRegistered_of_current number c hc stream hstream hcurrent
    exact ⟨hreplay, hauto.symm.trans himplicit, hcurrent,
      (hdistinct.isIdle_unsubscribe c.subscriber hregistered).mp hidle⟩

/-- The names after a connection has gone. -/
theorem Reachable.key?_of_drops (hr : h.Reachable config) {op : Op} {number : Nat}
    {c : Connection} (hdrops : (h.moment op).drops number c) {stream : EventStream}
    (hstream : h.server.registry.stream? c.stream = some stream) (name : String) :
    (h.Releases c stream ∧ name = stream.name) ∧
        (h.moment op).after.registry.key? name = none ∨
      ¬(h.Releases c stream ∧ name = stream.name) ∧
        (h.moment op).after.registry.key? name = h.server.registry.key? name := by
  have hafter : (h.moment op).after.registry = (h.server.leave c).registry :=
    Moment.registry_of_drops hr.recorded.sound hdrops
  rw [hafter, h.server.key?_leave c stream hstream name,
    hr.releases_iff number c hdrops.1 stream hstream]
  split
  · next hreleased => exact Or.inl ⟨hreleased, rfl⟩
  · next hkept => exact Or.inr ⟨hkept, rfl⟩

theorem Reachable.unregisters_iff (hr : h.Reachable config) {op : Op} {number : Nat}
    {c : Connection} (hdrops : (h.moment op).drops number c) {stream : EventStream}
    (hstream : h.server.registry.stream? c.stream = some stream) (name : String) (key : Nat) :
    (h.moment op).unregisters name key ↔
      h.Releases c stream ∧ name = stream.name ∧ key = c.stream := by
  rcases hr.key?_of_drops hdrops hstream name with ⟨⟨hreleases, hname⟩, hnone⟩ | ⟨hkept, hsame⟩
  · have hcurrent : h.server.registry.key? name = some c.stream := by
      rw [hname]
      exact hreleases.current
    constructor
    · rintro ⟨hkey, _⟩
      exact ⟨hreleases, hname, Option.some.inj (hkey.symm.trans hcurrent)⟩
    · rintro ⟨_, _, rfl⟩
      refine ⟨hcurrent, ?_⟩
      rw [hnone]
      exact Option.some_ne_none c.stream |>.symm
  · constructor
    · rintro ⟨hkey, hgone⟩
      exact (hgone (hsame.trans hkey)).elim
    · rintro ⟨hreleases, hname, _⟩
      exact (hkept ⟨hreleases, hname⟩).elim

/-- A stream that a connection is attached to keeps its name when another one leaves. -/
theorem Reachable.not_releases_of_other (hr : h.Reachable config) {number other : Nat}
    {c c' : Connection} (hc : h.server.connection? number = some c)
    (hc' : h.server.connection? other = some c') (hother : other ≠ number)
    (hkey : c'.stream = c.stream) {stream : EventStream}
    (hstream : h.server.registry.stream? c.stream = some stream) : ¬h.Releases c stream := by
  intro hreleases
  have hregistered : stream.isRegistered c'.subscriber = true := by
    apply hr.isRegistered_of_current other c' hc' stream
    · rw [hkey]
      exact hstream
    · rw [hkey]
      exact hreleases.current
  have hne : c'.subscriber ≠ c.subscriber := fun hsame =>
    hother (hr.recorded.sound.separate other number c' c hc' hc hkey hsame)
  exact (hr.made.distinct c.stream stream hstream).not_isLast hregistered hne hreleases.last

/-- An operation takes a name away only if it removes the name, stops the server or closes a
connection. As a connection is closed, its stream loses its name exactly if replay is off, the
stream came into being implicitly and is the one of its name, and this was its last subscriber;
no other stream does. So it is kept while another connection is attached to it, a connection
of a removed stream takes no name away, and with replay on all names and logs are kept. -/
theorem release_exact (config : ServerConfig) (h : History) (hr : h.Reachable config) (op : Op) :
    (∀ name key, (h.moment op).unregisters name key →
      op = .removeStream name ∨ op = .stop ∨ ∃ number c, (h.moment op).drops number c) ∧
      ∀ number c, (h.moment op).drops number c →
        ∃ stream, h.server.registry.stream? c.stream = some stream ∧
          (∀ name key, (h.moment op).unregisters name key ↔
            h.Releases c stream ∧ name = stream.name ∧ key = c.stream) ∧
          (∀ other c', other ≠ number → h.server.connection? other = some c' →
            ∀ name, ¬(h.moment op).unregisters name c'.stream) ∧
          (stream.removed = true → ∀ name,
            (h.moment op).after.registry.key? name = h.server.registry.key? name) ∧
          (config.autoReplay = true →
            (∀ name, (h.moment op).after.registry.key? name = h.server.registry.key? name) ∧
              h.server.registry.KeepsLogs (h.moment op).after.registry) := by
  have hs := hr.recorded.sound
  refine ⟨fun name key => Moment.op_of_unregisters hs, ?_⟩
  intro number c hdrops
  obtain ⟨stream, hstream, _⟩ := hr.attached number c hdrops.1
  have hnames : ¬h.Releases c stream → ∀ name,
      (h.moment op).after.registry.key? name = h.server.registry.key? name := by
    intro hnot name
    rcases hr.key?_of_drops hdrops hstream name with ⟨⟨hreleases, _⟩, _⟩ | ⟨_, hsame⟩
    · exact (hnot hreleases).elim
    · exact hsame
  refine ⟨stream, hstream, hr.unregisters_iff hdrops hstream, ?_, ?_, ?_⟩
  · intro other c' hother hc' name hunregisters
    obtain ⟨hreleases, _, hkey⟩ :=
      (hr.unregisters_iff hdrops hstream name c'.stream).mp hunregisters
    exact hr.not_releases_of_other hdrops.1 hc' hother hkey hstream hreleases
  · intro hremoved
    apply hnames
    intro hreleases
    cases hremoved.symm.trans (hs.registry.removed_of_key? hreleases.current hstream)
  · intro hreplay
    have hreplay' : h.server.config.autoReplay = true := by
      rw [hr.recorded.config_eq]
      exact hreplay
    refine ⟨hnames fun hreleases => ?_, ?_⟩
    · cases hreplay'.symm.trans hreleases.replayOff
    · have hserved := h.server.served_leave c
      rw [hreplay'] at hserved
      have hafter : (h.moment op).after.registry = (h.server.leave c).registry :=
        Moment.registry_of_drops hs hdrops
      rw [hafter]
      exact hserved.keepsLogs

/-- The stream `news` of connection 0 is removed, and connection 1 has made another one of this
name. Connection 0 leaves. -/
def orphaned : History :=
  ofOps { autoStream := true, autoReplay := false } [.attach "news" [], .removeStream "news",
    .attach "news" [], .disconnect 0]

theorem release_exact_orphaned :
    orphaned.Reachable { autoStream := true, autoReplay := false } ∧
      orphaned.server.registry.key? "news" = some 1 ∧
      (∃ c, (orphaned.moment (.disconnect 1)).drops 1 c) ∧
      (orphaned.moment (.disconnect 1)).unregisters "news" 1 := by
  let c : Connection := { stream := 1, subscriber := 1, replay := [] }
  let news : EventStream := { EventStream.new "news" { autoReplay := false } true with
    nextSubscriber := 2, subscriptions := [{ id := 1 }] }
  have hr : orphaned.Reachable { autoStream := true, autoReplay := false } := reachable_ofOps _ _
  have hdrops : (orphaned.moment (.disconnect 1)).drops 1 c := by
    refine ⟨?_, ?_⟩ <;> decide +kernel
  have hnews : orphaned.server.registry.stream? 1 = some news := by decide +kernel
  have hreleases : orphaned.Releases c news := by
    refine ⟨?_, ?_, ?_, ?_, ?_⟩ <;> decide +kernel
  obtain ⟨_, hrelease⟩ := release_exact _ orphaned hr (.disconnect 1)
  obtain ⟨stream, hstream, hiff, _⟩ := hrelease 1 c hdrops
  obtain rfl : stream = news := Option.some.inj (hstream.symm.trans hnews)
  exact ⟨hr, by decide +kernel, ⟨c, hdrops⟩, (hiff "news" 1).mpr ⟨hreleases, rfl, rfl⟩⟩

end History

end Server

end EventBroker
