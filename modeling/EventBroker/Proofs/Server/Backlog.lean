import EventBroker.Proofs.Server.Record

/-!
What a client that comes back is given. It attaches with the id of the event it received
last. As long as that event is still stored, nothing behind it is missed, whatever the
ids. Once it is gone, the stored events are picked out by the order of ids: those behind
an event that repeats the id, or else those whose id comes after it, by number if both are
words and bytewise if not. So nothing is missed where ids grow, and a stored event whose id
does not come after is missed.
-/
namespace EventBroker.Server

def log (s : Server) (name : String) : Replay := ((s.registry.get? name).map (·.replay)).getD {}

/-- The events that a new connection to the stream of a name is given first. -/
def backlog (s : Server) (name : String) (lastEventId : Bytes) : List Event :=
  if s.config.autoReplay then ((s.log name).snapshot s.now lastEventId).map (·.event) else []

theorem snapshot_of_nil (r : Replay) (now : Nat) (since : Bytes) (hnil : r.entries = []) :
    r.snapshot now since = [] := by
  unfold Replay.snapshot Replay.live
  rw [hnil]
  split <;> rfl

/-- A look-up that makes a stream finds an empty log, and any other one finds the log of the
name. -/
theorem snapshot_of_inserted (s : Server) (hs : s.registry.Sound) (name : String) (r : Registry)
    (key : Nat) (stream : EventStream) (hinserted : s.registry.Inserted name true r key)
    (hstream : r.stream? key = some stream) (since : Bytes) :
    stream.replay.snapshot s.now since = (s.log name).snapshot s.now since := by
  rcases hinserted.fresh with hkey | ⟨hnone, hnew⟩
  · obtain ⟨found, hfound, _⟩ := hs.named name key hkey
    obtain rfl : found = stream :=
      Option.some.inj ((hinserted.streams key found hfound).symm.trans hstream)
    have hlog : s.log name = found.replay := by
      rw [log, Registry.get?, hkey, Option.bind_some, hfound]
      rfl
    rw [hlog]
  · obtain rfl := Option.some.inj (hnew.symm.trans hstream)
    have hlog : s.log name = {} := by
      rw [log, Registry.get?, hnone]
      rfl
    rw [hlog, snapshot_of_nil _ _ _ rfl, snapshot_of_nil _ _ _ rfl]

namespace History

variable {config : ServerConfig} {h : History}

theorem Recorded.settings_of_inserted (hr : h.Recorded config) (name : String) (r : Registry)
    (key : Nat) (stream : EventStream) (hinserted : h.server.registry.Inserted name true r key)
    (hstream : r.stream? key = some stream) : stream.settings = config.streamSettings := by
  rcases hinserted.only key stream hstream with hbefore | ⟨_, _, rfl⟩
  · exact (hr.streams key stream hbefore).1
  · exact hr.settings

/-- The stream that a look-up finds or makes holds only what was published on it. -/
theorem Recorded.publishedOn_of_entries (hr : h.Recorded config) (name : String) (r : Registry)
    (key : Nat) (stream : EventStream) (hinserted : h.server.registry.Inserted name true r key)
    (hstream : r.stream? key = some stream) (x : Stored) (hx : x ∈ stream.replay.entries) :
    x ∈ h.publishedOn key := by
  rcases hinserted.only key stream hstream with hbefore | ⟨_, _, rfl⟩
  · exact (hr.streams key stream hbefore).2.suffix.subset hx
  · cases hx

/-- An attach that succeeds makes the next connection. It holds the backlog, which was published on
the stream that the name leads to, and its subscriber is registered there with an empty queue. -/
theorem Recorded.attach_ok (hr : h.Recorded config) (name : String) (lastEventId : Bytes)
    (number : Nat) (hok : (h.server.attach name lastEventId).2 = .ok number) :
    number = h.server.nextConnection ∧ ∃ c stream,
      (∀ n, (h.server.attach name lastEventId).1.connection? n =
        (h.server.connection? n).or (if n = number then some c else none)) ∧
      c.replay = h.server.backlog name lastEventId ∧
      (∀ e ∈ c.replay, e ∈ (h.publishedOn c.stream).map (·.event)) ∧
      (h.server.attach name lastEventId).1.registry.key? name = some c.stream ∧
      (h.server.attach name lastEventId).1.registry.stream? c.stream = some stream ∧
      stream.removed = false ∧
      stream.subscription? c.subscriber = some { id := c.subscriber } := by
  rcases h.server.attach_cases hr.sound.registry name lastEventId with
    ⟨r, key, stream, hinserted, hstream, ⟨fault, hattach⟩ | ⟨subscriber, replay, hsub, hattach⟩⟩ |
      ⟨_, hattach⟩
  · rw [hattach] at hok
    cases hok
  · rw [hattach] at hok ⊢
    obtain rfl : h.server.nextConnection = number := Except.ok.inj hok
    obtain ⟨hremoved, _, _, hreplay⟩ :=
      stream.subscribe_ok h.server.now lastEventId subscriber replay hsub
    have hsettings := hr.settings_of_inserted name r key stream hinserted hstream
    have hids := (hinserted.sound hr.sound.registry).ids key stream hstream
    have hregistry : ∀ c, (h.server.opened name
        (r.perform key h.server.now (.subscribe lastEventId)) c).registry =
          r.perform key h.server.now (.subscribe lastEventId) := by
      intro c
      rw [opened, call_eq]
    refine ⟨rfl, _, stream.perform h.server.now (.subscribe lastEventId),
      fun n => connection?_opened _ _ _ _ n, ?_, ?_, ?_, ?_, ?_, ?_⟩
    · have hauto : config.streamSettings.autoReplay = config.autoReplay := rfl
      rw [hreplay, hsettings, hauto, backlog, hr.config_eq,
        h.server.snapshot_of_inserted hr.sound.registry name r key stream hinserted hstream]
      split <;> rfl
    · intro e he
      obtain ⟨x, hx, rfl⟩ := List.mem_map.mp he
      apply List.mem_map_of_mem
      apply hr.publishedOn_of_entries name r key stream hinserted hstream
      rw [hreplay] at hx
      split at hx
      · exact Replay.mem_of_mem_snapshot _ _ _ x hx
      · cases hx
    · rw [hregistry]
      exact hinserted.key_eq
    · rw [hregistry, Registry.stream?_perform, if_pos rfl, hstream]
      rfl
    · exact (stream.perform_removed _ _ rfl).trans hremoved
    · exact hids.subscription?_subscribe h.server.now lastEventId subscriber replay hsub
  · rw [hattach] at hok
    cases hok

/-- An attach succeeds if there is a stream or one can be made, and a queue can be made. -/
theorem Recorded.exists_attach_ok (hr : h.Recorded config) (name : String) (lastEventId : Bytes)
    (hfound : config.autoStream = true ∨ h.server.streamExists name = true)
    (hroom : 0 < config.queueCapacity) (hmost : config.queueCapacity ≤ maxQueueCapacity) :
    ∃ number, (h.server.attach name lastEventId).2 = .ok number := by
  rcases h.server.resolve_cases name with ⟨r, key, hinserted, hresolve⟩ | ⟨hkey, hresolve⟩
  · obtain ⟨stream, hstream, hremoved⟩ := hinserted.exists_stream hr.sound.registry
    have hsettings := hr.settings_of_inserted name r key stream hinserted hstream
    obtain ⟨answer, hanswer⟩ := stream.exists_subscribe_ok h.server.now lastEventId hremoved
      (by rw [hsettings]; exact hroom) (by rw [hsettings]; exact hmost)
    have hattach :=
      attachTo_eq { h.server with registry := r } name key lastEventId stream hstream
    rw [hanswer] at hattach
    refine ⟨h.server.nextConnection, ?_⟩
    simp only [attach, attachWithin, hresolve, hattach]
  · rcases hfound with hauto | hexists
    · rw [resolve, hr.config_eq, if_pos hauto] at hresolve
      cases congrArg (·.2) hresolve
    · rw [streamExists, Registry.contains, hkey] at hexists
      cases hexists

end History

def unexpired (s : Server) (name : String) (entries : List Stored) : List Event :=
  ((s.log name).fresh s.now entries).map (·.event)

/-- Of the events published after some event, those that are still stored. -/
def stillStored (s : Server) (name : String) (later : List Stored) : List Stored :=
  later.drop (later.length - (s.log name).entries.length)

/-- The end of a list either lies behind one of its items or goes back to it. -/
theorem suffix_of_append_cons {α : Type} (xs before later : List α) (x : α)
    (h : xs <:+ before ++ x :: later) : xs <:+ later ∨ ∃ front, xs = front ++ x :: later := by
  rcases List.suffix_or_suffix_of_suffix h (List.suffix_append before (x :: later)) with
    hshort | ⟨front, hfront⟩
  · rcases List.suffix_cons_iff.mp hshort with rfl | hlater
    · exact Or.inr ⟨[], rfl⟩
    · exact Or.inl hlater
  · exact Or.inr ⟨front, hfront.symm⟩

/-- The log of a name has forgotten an event, and then all that it holds came later, or it still
holds the event and all that came later. -/
theorem stillStored_cases (s : Server) (name : String) (before later : List Stored) (e : Stored)
    (hsuffix : (s.log name).entries <:+ before ++ e :: later) :
    ((s.log name).entries.length ≤ later.length ∧
        s.stillStored name later = (s.log name).entries) ∨
      later.length < (s.log name).entries.length ∧ s.stillStored name later = later ∧
        ∃ front, (s.log name).entries = front ++ e :: later := by
  rcases suffix_of_append_cons _ _ _ _ hsuffix with hlater | ⟨front, hfront⟩
  · exact Or.inl ⟨hlater.length_le, (List.suffix_iff_eq_drop.mp hlater).symm⟩
  · have hlength : later.length < (s.log name).entries.length := by
      rw [hfront, List.length_append, List.length_cons]
      omega
    have hnothing : later.length - (s.log name).entries.length = 0 := by omega
    refine Or.inr ⟨hlength, ?_, front, hfront⟩
    rw [stillStored, hnothing, List.drop_zero]

namespace History

variable {config : ServerConfig} {h : History}

/-- The log of a name is the end of what was published under it. -/
theorem Recorded.log_suffix (hr : h.Recorded config) (name : String) :
    (h.server.log name).entries <:+ h.publishedAs name := by
  unfold log Registry.get?
  cases hkey : h.server.registry.key? name with
  | none => exact List.nil_suffix
  | some key =>
    obtain ⟨stream, hstream, _⟩ := hr.sound.registry.named name key hkey
    rw [Option.bind_some, hstream]
    exact (hr.streams key stream hstream).2.suffix.trans (hr.current name key hkey)

/-- Every event has an id once it is published. -/
theorem id_ne_nil_of_publishedAs (name : String) (x : Stored) (hx : x ∈ h.publishedAs name) :
    x.event.id ≠ [] := by
  obtain ⟨m, _, hpublished⟩ := List.mem_filterMap.mp hx
  have hpublication : ∃ key, m.publication = some (key, x) := by
    unfold Moment.publishedAs at hpublished
    split at hpublished
    · split at hpublished
      · obtain ⟨⟨key, x'⟩, hsome, rfl⟩ := Option.map_eq_some_iff.mp hpublished
        exact ⟨key, hsome⟩
      · cases hpublished
    · cases hpublished
  obtain ⟨key, hpublication⟩ := hpublication
  unfold Moment.publication at hpublication
  split at hpublication
  · split at hpublication
    · cases hpublication
    · split at hpublication
      · obtain ⟨stream, _, hstamp⟩ := Option.map_eq_some_iff.mp hpublication
        obtain ⟨-, rfl⟩ := Prod.mk.injEq .. ▸ hstamp
        exact stream.stamp_id_ne_nil _
      · cases hpublication
  · cases hpublication

/-- A client attaches again with the id of an event it received. If the event is still stored, the
replay misses nothing behind it. If it is gone, the replay is what stands behind the first stored
event that repeats its id, or the stored events whose id comes after it: by number if both ids spell
one of 64 bits, bytewise if not. In both cases it misses nothing where the ids of the stored events
that came later come after it. -/
theorem resumption_by_id (config : ServerConfig) (hauto : config.autoReplay = true) (h : History)
    (hr : h.Reachable config) (name : String) (before later : List Stored) (e : Stored)
    (hpublished : h.publishedAs name = before ++ e :: later) :
    (h.server.log name).entries <:+ h.publishedAs name ∧
      (config.autoStream = true ∨ h.server.streamExists name = true → 0 < config.queueCapacity →
        config.queueCapacity ≤ maxQueueCapacity →
        ∃ number, (h.server.attach name e.event.id).2 = .ok number) ∧
      ∀ number, (h.server.attach name e.event.id).2 = .ok number →
        ∃ c, (h.server.attach name e.event.id).1.connection? number = some c ∧
          (later.length < (h.server.log name).entries.length →
            h.server.unexpired name (h.server.stillStored name later) <:+ c.replay) ∧
          ((h.server.log name).entries.length ≤ later.length →
            (∀ front x rest, h.server.stillStored name later = front ++ x :: rest →
              x.event.id = e.event.id → (∀ y ∈ front, y.event.id ≠ e.event.id) →
              c.replay = h.server.unexpired name rest) ∧
            ((∀ x ∈ h.server.stillStored name later, x.event.id ≠ e.event.id) →
              c.replay = h.server.unexpired name ((h.server.stillStored name later).filter
                fun x => Replay.Follows x.event.id e.event.id))) ∧
          ((∀ x ∈ h.server.stillStored name later, Replay.Follows x.event.id e.event.id) →
            h.server.unexpired name (h.server.stillStored name later) <:+ c.replay) := by
  have hrecorded := hr.recorded
  have hid : e.event.id ≠ [] :=
    id_ne_nil_of_publishedAs name e (by rw [hpublished]; simp)
  have hsuffix := hrecorded.log_suffix name
  refine ⟨hsuffix, hrecorded.exists_attach_ok name e.event.id, ?_⟩
  intro number hok
  obtain ⟨hnumber, c, _, hconnection, hreplay, _⟩ :=
    hrecorded.attach_ok name e.event.id number hok
  have hc : (h.server.attach name e.event.id).1.connection? number = some c := by
    rw [hconnection, if_pos rfl, hrecorded.sound.unused_number number hnumber, Option.none_or]
  rw [backlog, hrecorded.config_eq, hauto, if_pos rfl] at hreplay
  rw [hpublished] at hsuffix
  have hmissed (hlength : later.length < (h.server.log name).entries.length) :
      h.server.unexpired name (h.server.stillStored name later) <:+ c.replay := by
    rcases h.server.stillStored_cases name before later e hsuffix with
      ⟨hshort, _⟩ | ⟨_, hstill, front, hfront⟩
    · omega
    · rw [hreplay, hstill]
      exact ((h.server.log name).fresh_suffix_snapshot h.server.now e.event.id front later e hid
        hfront rfl).map _
  have hgone (hlength : (h.server.log name).entries.length ≤ later.length) :
      h.server.stillStored name later = (h.server.log name).entries := by
    rcases h.server.stillStored_cases name before later e hsuffix with ⟨_, hstill⟩ | ⟨hlong, _⟩
    · exact hstill
    · omega
  have habsent (hlength : (h.server.log name).entries.length ≤ later.length)
      (hids : ∀ x ∈ h.server.stillStored name later, x.event.id ≠ e.event.id) :
      c.replay = h.server.unexpired name ((h.server.stillStored name later).filter
        fun x => Replay.Follows x.event.id e.event.id) := by
    rw [hgone hlength] at hids ⊢
    rw [hreplay, (h.server.log name).snapshot_of_absent h.server.now e.event.id hid hids]
    rfl
  refine ⟨c, hc, hmissed, fun hlength => ⟨?_, habsent hlength⟩, ?_⟩
  · intro front x rest hstill hx hfront
    rw [hgone hlength] at hstill
    rw [hreplay, (h.server.log name).snapshot_of_first h.server.now e.event.id front rest x hid
      hstill hx hfront]
    rfl
  · intro hlater
    by_cases hlength : later.length < (h.server.log name).entries.length
    · exact hmissed hlength
    · have hids : ∀ x ∈ h.server.stillStored name later, x.event.id ≠ e.event.id := by
        intro x hx heq
        have hafter := hlater x hx
        rw [heq] at hafter
        exact Replay.not_follows_self _ hafter
      rw [habsent (by omega) hids, List.filter_eq_self.mpr fun x hx => decide_eq_true (hlater x hx)]

def ofOps (config : ServerConfig) (ops : List Op) : History :=
  History.run { server := .ofConfig config } ops

theorem reachable_ofOps (config : ServerConfig) (ops : List Op) :
    (ofOps config ops).Reachable config :=
  Continues.refl.run ops

/-- Three numbered events, of which the log has room for the last two. -/
def pruned : History :=
  ofOps { replayCapacity := some 2 } [.createStream "news", .publish "news" { data := [97] },
    .publish "news" { data := [98] }, .publish "news" { data := [99] }]

theorem resumption_by_id_pruned :
    pruned.Reachable { replayCapacity := some 2 } ∧
      ∃ c, (pruned.server.attach "news" [49]).1.connection? 0 = some c ∧
        [{ id := [50], data := [98] }, { id := [51], data := [99] }] <:+ c.replay := by
  have hr : pruned.Reachable { replayCapacity := some 2 } := reachable_ofOps _ _
  obtain ⟨_, _, hattach⟩ := resumption_by_id { replayCapacity := some 2 } rfl pruned hr "news" []
    [⟨{ id := [50], data := [98] }, 0⟩, ⟨{ id := [51], data := [99] }, 0⟩]
    ⟨{ id := [49], data := [97] }, 0⟩ (by decide +kernel)
  obtain ⟨c, hc, _, _, hlater⟩ := hattach 0 (by decide +kernel)
  exact ⟨hr, c, hc, hlater (by decide +kernel)⟩

/-- The log has room for one event. The event `b` is received, and then `a` takes its place. -/
def displaced : History :=
  ofOps { replayCapacity := some 1 } [.createStream "news", .attach "news" [],
    .publish "news" { id := [98], data := [49] }, .poll 0, .disconnect 0,
    .publish "news" { id := [97], data := [50] }]

/-- It is not so that whatever the ids nothing is missed: `a` does not come after `b`. -/
theorem resumption_by_id_gap :
    ¬∀ (config : ServerConfig) (h : History) (name : String) (before later : List Stored)
        (e : Stored) (receiver number : Nat) (c : Connection),
      config.autoReplay = true → h.Reachable config →
      h.publishedAs name = before ++ e :: later →
      (h.emitted receiver).getLast? = some (Frame.encode config.base64 e.event) →
      (h.server.attach name e.event.id).2 = .ok number →
      (h.server.attach name e.event.id).1.connection? number = some c →
      ∀ x ∈ h.server.unexpired name (h.server.stillStored name later), x ∈ c.replay := by
  intro hall
  have hmissed := hall { replayCapacity := some 1 } displaced "news" []
    [⟨{ id := [97], data := [50] }, 0⟩] ⟨{ id := [98], data := [49] }, 0⟩ 0 1
    { stream := 0, subscriber := 2, replay := [] } rfl (reachable_ofOps _ _) (by decide +kernel)
    (by decide +kernel) (by decide +kernel) (by decide +kernel) { id := [97], data := [50] }
    (by decide +kernel)
  cases hmissed

end History

end EventBroker.Server
