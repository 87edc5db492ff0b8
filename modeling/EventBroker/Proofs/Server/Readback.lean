import EventBroker.Program
import EventBroker.Proofs.Server.Ledger

/-!
What can be published over HTTP can be read over HTTP. A server that keeps all events is
served by the command. A request publishes an event under a name and is accepted; then a
request for the stream of that name opens a connection, and the event is the last one of
the replay that this connection is sent. Two cases are apart. The endpoint that publishes
takes the empty name, which the endpoint of the streams takes for a missing one. And the
rules for the settings set no limit to the size of a queue, but no queue can be made above
one.
-/
namespace EventBroker

open Http

theorem EventStream.unbounded_perform {s : EventStream} (h : s.replay.Unbounded) (now : Nat)
    (op : Op) : (s.perform now op).replay.Unbounded := by
  cases hquiet : op.isQuiet with
  | true =>
    rw [perform_of_isQuiet s now op hquiet]
    exact h
  | false =>
    cases op with
    | publish e =>
      cases hremoved : s.removed with
      | true =>
        rw [perform, publish_removed s now e hremoved]
        exact h
      | false =>
        rw [perform, publish_fst s now e hremoved]
        dsimp only
        split
        · exact h.append now _
        · exact h
    | remove => exact ⟨h.ttl, h.capacity⟩
    | closeIfIdle =>
      simp only [perform, closeIfIdle]
      split
      · exact ⟨h.ttl, h.capacity⟩
      · exact h
    | subscribe | unsubscribe | receive | drop | advance => exact Bool.noConfusion hquiet

/-- Settings under which events are stored, and nothing is ever taken from the store. -/
structure ServerConfig.KeepsAll (c : ServerConfig) : Prop where
  autoReplay : c.autoReplay = true
  ttl : c.eventTtl = none
  capacity : c.replayCapacity = none

namespace Server

/-- The event as the stream of a name publishes it next: without an id it gets the number behind
the last one that the stream gave. -/
def assigned (s : Server) (name : String) (e : Event) : Event :=
  if e.id = [] then
    { e with id := Decimal.encode (((s.registry.get? name).map (·.sequence)).getD 0 + 1) }
  else e

theorem stamp_of_inserted (s : Server) (hs : s.registry.Sound) (name : String) (e : Event)
    (r : Registry) (key : Nat) (stream : EventStream)
    (hinserted : s.registry.Inserted name true r key) (hstream : r.stream? key = some stream) :
    (stream.stamp e).2 = s.assigned name e := by
  have hsequence : ((s.registry.get? name).map (·.sequence)).getD 0 = stream.sequence := by
    rw [Registry.get?]
    rcases hinserted.fresh with hkey | ⟨hnone, hnew⟩
    · obtain ⟨found, hfound, _⟩ := hs.named name key hkey
      obtain rfl : found = stream :=
        Option.some.inj ((hinserted.streams key found hfound).symm.trans hstream)
      rw [hkey, Option.bind_some, hfound]
      rfl
    · obtain rfl := Option.some.inj (hnew.symm.trans hstream)
      rw [hnone]
      rfl
  by_cases hid : e.id = []
  · rw [EventStream.stamp_of_isEmpty stream e hid, assigned, if_pos hid, hsequence]
  · have hnot : ¬e.id.isEmpty = true := fun h => hid (List.isEmpty_iff.mp h)
    rw [EventStream.stamp, if_neg hnot, assigned, if_neg hid]

namespace History

structure Retains (config : ServerConfig) (h : History) : Prop where
  keeps : config.KeepsAll
  recorded : h.Recorded config
  unbounded : ∀ key stream, h.server.registry.stream? key = some stream → stream.replay.Unbounded

namespace Retains

variable {config : ServerConfig} {h : History}

theorem unbounded_new (hr : h.Retains config) (name : String) (auto : Bool) :
    (EventStream.new name h.server.registry.settings auto).replay.Unbounded := by
  rw [hr.recorded.settings]
  exact ⟨hr.keeps.ttl, hr.keeps.capacity⟩

theorem step (hr : h.Retains config) (op : Op) : (h.step op).Retains config := by
  refine ⟨hr.keeps, hr.recorded.step op, ?_⟩
  refine (h.server.reaches_step hr.recorded.sound.registry op).streams
    (P := fun _ stream => stream.replay.Unbounded) hr.unbounded ?_ ?_
  · exact fun _ name auto _ => hr.unbounded_new name auto
  · exact fun _ stream now o _ hstream => EventStream.unbounded_perform hstream now o

theorem continues (hr : h.Retains config) {h' : History} (hcontinues : h.Continues h') :
    h'.Retains config :=
  hcontinues.of_step hr fun _ _ hretains op => hretains.step op

theorem unbounded_log (hr : h.Retains config) (name : String) :
    (h.server.log name).Unbounded := by
  unfold log Registry.get?
  cases hkey : h.server.registry.key? name with
  | none => exact ⟨rfl, rfl⟩
  | some key =>
    obtain ⟨stream, hstream, _⟩ := hr.recorded.sound.registry.named name key hkey
    rw [Option.bind_some, hstream]
    exact hr.unbounded key stream hstream

/-- A log ends with the event that was published under its name last. -/
theorem getLast?_log (hr : h.Retains config) (name : String) (e : Event)
    (haccepted : (h.server.publish name e).2 = true) :
    ((h.step (.publish name e)).server.log name).entries.getLast? =
      some ⟨h.server.assigned name e, h.server.now⟩ := by
  have hsound := hr.recorded.sound.registry
  rcases h.server.publish_cases hsound name e with
    ⟨r, key, stream, hinserted, hstream, hpublish⟩ | ⟨_, hrefused⟩
  · obtain ⟨found, hfound, hremoved⟩ := hinserted.exists_stream hsound
    obtain rfl : found = stream := Option.some.inj (hfound.symm.trans hstream)
    have hkept : found.settings.autoReplay = true := by
      rw [hr.recorded.settings_of_inserted name r key found hinserted hfound]
      exact hr.keeps.autoReplay
    have hunbounded : found.replay.Unbounded := by
      rcases hinserted.only key found hfound with hbefore | ⟨_, _, rfl⟩
      · exact hr.unbounded key found hbefore
      · exact hr.unbounded_new name true
    have hname : (r.perform key h.server.now (.publish e)).key? name = some key :=
      hinserted.key_eq
    have hserver : (h.step (.publish name e)).server =
        { h.server with registry := r.perform key h.server.now (.publish e) } :=
      congrArg (·.1) hpublish
    rw [hserver, log, Registry.get?, hname, Option.bind_some, Registry.stream?_perform, if_pos rfl,
      hfound, Option.map_some, Option.map_some, Option.getD_some, EventStream.perform,
      EventStream.publish_fst found _ e hremoved, hkept, if_pos rfl, hunbounded.append_eq,
      List.getLast?_concat, h.server.stamp_of_inserted hsound name e r key found hinserted hfound]
  · rw [hrefused] at haccepted
    cases haccepted

/-- A new connection that asks for everything is given the whole log. -/
theorem backlog_nil (hr : h.Retains config) (name : String) :
    h.server.backlog name [] = (h.server.log name).entries.map (·.event) := by
  rw [backlog, hr.recorded.config_eq, hr.keeps.autoReplay, if_pos rfl,
    (hr.unbounded_log name).snapshot_nil]

end Retains

end History

/-- A poll takes the next event of the replay, as long as there is one. -/
theorem poll_replay {s : Server} {number : Nat} {c : Connection} {e : Event} {rest : List Event}
    (hrunning : s.stopped = false) (hc : s.connection? number = some c)
    (hreplay : c.replay = e :: rest) :
    s.poll number =
      (s.setConnection number { c with replay := rest, idleSince := none },
        .frame (Frame.encode s.config.base64 e)) := by
  have hnext : s.nextFrame c =
      (s.registry, { c with replay := rest, idleSince := none },
        .frame (Frame.encode s.config.base64 e)) := by
    rw [nextFrame, hrunning, if_neg Bool.false_ne_true, hreplay]
  exact s.poll_of_ne_ended number c _ _ _ hc hnext (by simp)

/-- Polls one after another are answered with the frames of the replay. -/
theorem poll_run_replay (number i : Nat) (s : Server) (c : Connection)
    (hrunning : s.stopped = false) (hc : s.connection? number = some c) (e : Event)
    (he : c.replay[i]? = some e) :
    ((s.run (List.replicate i (.poll number))).poll number).2 =
      .frame (Frame.encode s.config.base64 e) := by
  induction i generalizing s c with
  | zero =>
    obtain ⟨rest, hrest⟩ := List.head?_eq_some_iff.mp (List.head?_eq_getElem?.trans he)
    exact congrArg (·.2) (poll_replay hrunning hc hrest)
  | succ i ih =>
    cases hreplay : c.replay with
    | nil =>
      rw [hreplay] at he
      cases he
    | cons first rest =>
      rw [hreplay, List.getElem?_cons_succ] at he
      let c' : Connection := { c with replay := rest, idleSince := none }
      have hstep : s.step (.poll number) = s.setConnection number c' :=
        congrArg (·.1) (poll_replay hrunning hc hreplay)
      have hc' : (s.setConnection number c').connection? number = some c' := by
        rw [connection?_setConnection, if_pos rfl, hc, Option.map_some]
      rw [List.replicate_succ, run, List.foldl_cons, hstep]
      exact ih (s.setConnection number c') c' hrunning hc' he

structure Posts (r : Request) (name : String) (e : Event) : Prop where
  method : r.method = "POST"
  path : r.path = publishPath
  query : ∃ fields, Form.readFields ["stream", "id", "event"] r.query = .ok fields ∧
    fields.lookup "stream" = some name ∧
    e = { data := r.body, id := Bytes.ofString ((fields.lookup "id").getD ""),
          name := Bytes.ofString ((fields.lookup "event").getD "") }

/-- A request for the stream of a name from its first event on. -/
structure Asks (routes : Routes) (r : Request) (name : String) : Prop where
  method : r.method = "GET"
  path : .stream ∈ routes.endpoints r.path
  query : ∃ fields, Form.readFields ["stream"] r.query = .ok fields ∧
    fields.lookup "stream" = some name
  fresh : r.headers.get? "last-event-id" = none

theorem find?_publish (routes : Routes) (hpublishing : routes.publishing = true) :
    (routes.endpoints publishPath).find? (·.methods.contains "POST") = some .publish := by
  rw [Routes.endpoints, hpublishing, beq_self_eq_true, Bool.and_self, if_pos rfl]
  split <;> rfl

theorem find?_stream (endpoints : List Endpoint) (hmem : .stream ∈ endpoints) :
    endpoints.find? (·.methods.contains "GET") = some .stream := by
  induction endpoints with
  | nil => cases hmem
  | cons endpoint rest ih =>
    cases endpoint with
    | stream => rfl
    | publish =>
      have hrest : Endpoint.stream ∈ rest := by simpa using hmem
      rw [List.find?_cons_of_neg (by decide), ih hrest]

/-- A request to publish that is answered with 202 has published. -/
theorem Posts.accepted {r : Request} {name : String} {e : Event} (hp : Posts r name e)
    (s : Server) (routes : Routes) (hpublishing : routes.publishing = true) (reply : Reply)
    (hreply : (s.handle routes r).2 = .whole reply) (haccepted : reply.status = 202) :
    (s.publish name e).2 = true ∧ (s.handle routes r).1 = (s.publish name e).1 := by
  obtain ⟨fields, hfields, hname, rfl⟩ := hp.query
  have hendpoint : (routes.endpoints r.path).find? (·.methods.contains r.method) =
      some .publish := by
    rw [hp.path, hp.method]
    exact find?_publish routes hpublishing
  simp only [handle, hendpoint, servePublish, hfields, hname] at hreply ⊢
  split at hreply
  · cases hreply
    cases haccepted
  · next hsize =>
    rw [if_neg hsize]
    split at hreply
    · next hpublish =>
      rw [hpublish]
      exact ⟨rfl, rfl⟩
    · cases hreply
      cases haccepted

/-- A request for a stream is an attach with no last id. -/
theorem Asks.opens {routes : Routes} {r : Request} {name : String} (ha : Asks routes r name)
    (hname : name ≠ "") (s : Server) (number : Nat) (hok : (s.attach name []).2 = .ok number) :
    ∃ reply, s.handle routes r = ((s.attach name []).1, .opened reply number) ∧
      reply.status = 200 := by
  obtain ⟨fields, hfields, hlookup⟩ := ha.query
  have hnamed : name.isEmpty = false := by
    rwa [Bool.eq_false_iff, ne_eq, String.isEmpty_iff]
  have hendpoint : (routes.endpoints r.path).find? (·.methods.contains r.method) =
      some .stream := by
    rw [ha.method]
    exact find?_stream _ ha.path
  have hget : (r.method == "HEAD") = false := by
    rw [ha.method]
    decide
  have hpair : s.attach name [] = ((s.attach name []).1, .ok number) := Prod.ext rfl hok
  refine ⟨{ status := 200, headers := (s.attach name []).1.config.streamHeaders }, ?_, rfl⟩
  simp only [handle, hendpoint, hget, serveStream, hfields, hlookup, ha.fresh, hnamed,
    Option.getD_some, Option.getD_none, Bool.false_eq_true, if_false]
  rw [hpair]

/-- A request for a stream opens a connection whose replay ends with an event, and the polls of the
connection are answered with the frames of this replay, one after another. -/
def Shows (s : Server) (routes : Routes) (r : Request) (e : Event) : Prop :=
  ∃ reply number c, (s.handle routes r).2 = .opened reply number ∧ reply.status = 200 ∧
    (s.handle routes r).1.connection? number = some c ∧ c.replay.getLast? = some e ∧
    ∀ i replayed, c.replay[i]? = some replayed →
      (((s.handle routes r).1.run (List.replicate i (.poll number))).poll number).2 =
        .frame (Frame.encode s.config.base64 replayed)

namespace History

/-- A request for the stream of a name shows the last event of its log. -/
theorem Retains.shows {config : ServerConfig} {h : History} (hr : h.Retains config)
    (hrunning : h.server.stopped = false) (hroom : 0 < config.queueCapacity)
    (hmost : config.queueCapacity ≤ maxQueueCapacity) (name : String) (hname : name ≠ "")
    (routes : Routes) (r : Request) (ha : Asks routes r name) (x : Stored)
    (hlast : (h.server.log name).entries.getLast? = some x) :
    h.server.Shows routes r x.event := by
  have hexists : h.server.streamExists name = true := by
    cases hkey : h.server.registry.key? name with
    | some key => rw [streamExists, Registry.contains, hkey, Option.isSome_some]
    | none =>
      rw [log, Registry.get?, hkey] at hlast
      cases hlast
  obtain ⟨number, hok⟩ :=
    hr.recorded.exists_attach_ok name [] (Or.inr hexists) hroom hmost
  obtain ⟨reply, hreply, hstatus⟩ := ha.opens hname h.server number hok
  obtain ⟨hnumber, c, _, hconnection, hreplay, _⟩ := hr.recorded.attach_ok name [] number hok
  have hc : (h.server.attach name []).1.connection? number = some c := by
    have hlookup := hconnection number
    rw [if_pos rfl, hr.recorded.sound.unused_number number hnumber, Option.none_or] at hlookup
    exact hlookup
  have hstill : (h.server.attach name []).1.stopped = false :=
    (h.server.step_frame hr.recorded.sound (.attach name []) (by simp)).2.1.trans hrunning
  have hconfig : (h.server.attach name []).1.config = h.server.config :=
    (hr.step (.attach name [])).recorded.config_eq.trans hr.recorded.config_eq.symm
  rw [Shows, hreply]
  refine ⟨reply, number, c, rfl, hstatus, hc, ?_, ?_⟩
  · rw [hreplay, hr.backlog_nil, List.getLast?_map, hlast]
    rfl
  · intro i replayed hreplayed
    rw [← hconfig]
    exact poll_run_replay number i _ c hstill hc replayed hreplayed

/-- The names that are made streams at the start leave nothing behind but streams. -/
theorem Retains.created {config : ServerConfig} {s : Server}
    (hr : History.Retains config { server := s }) (names : List String) :
    History.Retains config
      { server := names.foldl (fun s name => (s.createStream name).1) s } := by
  induction names generalizing s with
  | nil => exact hr
  | cons name names ih =>
    obtain ⟨hkeeps, hrecorded, hunbounded⟩ := hr.step (.createStream name)
    apply ih
    refine ⟨hkeeps, ?_, hunbounded⟩
    exact ⟨hrecorded.sound, hrecorded.config_eq, hrecorded.settings, hrecorded.streams,
      fun _ _ => rfl, hrecorded.current⟩

theorem Retains.flags {config : ServerConfig} {s : Server}
    (hr : History.Retains config { server := s }) (hooked started : Bool) :
    History.Retains config { server := { s with hooked, started } } := by
  obtain ⟨hsound, hconfig, hsettings, hstreams, hunused, hcurrent⟩ := hr.recorded
  refine ⟨hr.keeps, ?_, hr.unbounded⟩
  exact ⟨⟨hsound.registry, hsound.number_lt, hsound.subscriber_lt, hsound.separate⟩, hconfig,
    hsettings, hstreams, hunused, hcurrent⟩

end History

theorem queueCapacity_pos_of_check {c : ServerConfig} (hcheck : c.check = .ok ()) :
    0 < c.queueCapacity := by
  rcases Nat.eq_zero_or_pos c.queueCapacity with hzero | hpos
  · unfold ServerConfig.check at hcheck
    split at hcheck
    · cases hcheck
    · split at hcheck
      · cases hcheck
      · cases hcheck
  · exact hpos

/-- The server that the command starts has the streams that it is told to make, and settings that
keep the rules. -/
theorem serve_ok {o : ServeOptions} {settings : ServerConfig} {canBind : String → Bool}
    {server : Server} {routes : Routes}
    (hserve : Program.serve o settings canBind = .ok (server, routes)) :
    (o.apply settings).check = .ok () ∧
      Routes.ofConfig (o.apply settings) true = .ok routes ∧
      ∃ s, s = o.streams.foldl (fun s name => (s.createStream name).1)
          { ofConfig (o.apply settings) with hooked := false } ∧
        server = { s with started := true } := by
  unfold Program.serve Server.new at hserve
  cases hcheck : (o.apply settings).check with
  | error cause =>
    simp only [hcheck, Except.map] at hserve
    cases hserve
  | ok =>
    simp only [hcheck, Except.map] at hserve
    cases hroutes : Routes.ofConfig (o.apply settings) true with
    | error cause =>
      simp only [hroutes] at hserve
      cases hserve
    | ok served =>
      simp only [hroutes, start] at hserve
      split at hserve
      · cases hserve
      · next hstarted =>
        split at hstarted
        · cases hstarted
        · split at hstarted
          · cases hstarted
            cases hserve
            exact ⟨rfl, rfl, _, rfl, rfl⟩
          · cases hstarted

theorem publishing_of_ofConfig {c : ServerConfig} {publishing : Bool} {routes : Routes}
    (hroutes : Routes.ofConfig c publishing = .ok routes) : routes.publishing = publishing := by
  unfold Routes.ofConfig at hroutes
  cases hread : Pattern.read c.path with
  | error fault =>
    rw [hread] at hroutes
    cases hroutes
  | ok stream =>
    rw [hread] at hroutes
    cases hroutes
    rfl

namespace History

theorem config_foldl_createStream (names : List String) (s : Server) :
    (names.foldl (fun s name => (s.createStream name).1) s).config = s.config := by
  induction names generalizing s with
  | nil => rfl
  | cons name names ih => exact ih (s.createStream name).1

theorem retains_serve {o : ServeOptions} {settings : ServerConfig} {canBind : String → Bool}
    {server : Server} {routes : Routes}
    (hserve : Program.serve o settings canBind = .ok (server, routes))
    (hkeeps : server.config.KeepsAll) :
    server.config = o.apply settings ∧ History.Retains (o.apply settings) { server } := by
  obtain ⟨_, _, s, hs, rfl⟩ := serve_ok hserve
  have hconfig : s.config = o.apply settings := by
    rw [hs]
    exact config_foldl_createStream o.streams _
  have hempty : History.Retains (o.apply settings) { server := ofConfig (o.apply settings) } := by
    rw [← hconfig]
    exact ⟨hkeeps, Reachable.recorded .refl, nofun⟩
  have hcreated : History.Retains (o.apply settings) { server := s } := by
    rw [hs]
    exact (hempty.flags false false).created o.streams
  exact ⟨hconfig, hcreated.flags s.hooked true⟩

end History

/-- Whatever has happened to the server before it is stopped, what it accepts for publication under
the name is the last event of the replay that the next request for the stream of the name is
sent. -/
def ReadsBack (server : Server) (routes : Routes) (name : String) : Prop :=
  ∀ (h : History) (post get : Request) (e : Event) (reply : Reply),
    History.Continues { server } h → h.server.stopped = false → Posts post name e →
    (h.server.handle routes post).2 = .whole reply → reply.status = 202 →
    Asks routes get name →
    (h.server.handle routes post).1.Shows routes get (h.server.assigned name e)

/-- A server of the command that keeps all events gives back what is published under any name but
the empty one, if its queues are not larger than a queue can be. -/
theorem published_reads_back (o : ServeOptions) (settings : ServerConfig)
    (canBind : String → Bool) (server : Server) (routes : Routes)
    (hserve : Program.serve o settings canBind = .ok (server, routes))
    (hkeeps : server.config.KeepsAll) (hmost : server.config.queueCapacity ≤ maxQueueCapacity)
    (name : String) (hname : name ≠ "") : server.ReadsBack routes name := by
  intro h post get e reply hr hrunning hpost hreply haccepted hget
  obtain ⟨hcheck, hroutes, _⟩ := serve_ok hserve
  obtain ⟨hconfig, hstart⟩ := History.retains_serve hserve hkeeps
  rw [hconfig] at hmost
  have hretains := hstart.continues hr
  obtain ⟨hpublished, hserver⟩ :=
    hpost.accepted h.server routes (publishing_of_ofConfig hroutes) reply hreply haccepted
  have hstill : (h.step (.publish name e)).server.stopped = false :=
    (h.server.step_frame hretains.recorded.sound (.publish name e) nofun).2.1.trans hrunning
  rw [hserver]
  exact (hretains.step (.publish name e)).shows hstill (queueCapacity_pos_of_check hcheck) hmost
    name hname routes get hget _ (hretains.getLast?_log name e hpublished)

def serving (settings : ServerConfig) : Server :=
  { ofConfig settings with hooked := false, started := true }

def defaultRoutes : Routes :=
  { stream := [.literal ['e', 'v', 'e', 'n', 't', 's']], streamPath := "/events",
    publishing := true }

/-- The second event of a stream gets the number 2. -/
theorem published_reads_back_numbered :
    Program.serve {} { autoStream := true } (fun _ => true) =
        .ok (serving { autoStream := true }, defaultRoutes) ∧
      let h : History :=
        History.run { server := serving { autoStream := true } } [.publish "news" { data := [97] }]
      let r : Request :=
        { method := "POST", target := "/publish?stream=news&event=tick", body := [98] }
      (h.server.handle defaultRoutes r).1.Shows defaultRoutes { target := "/events?stream=news" }
        { id := [50], name := [116, 105, 99, 107], data := [98] } := by
  have hserve : Program.serve {} { autoStream := true } (fun _ => true) =
      .ok (serving { autoStream := true }, defaultRoutes) := by decide +kernel
  have hpost : Posts { method := "POST", target := "/publish?stream=news&event=tick", body := [98] }
      "news" { name := [116, 105, 99, 107], data := [98] } :=
    ⟨rfl, by decide +kernel, [("stream", "news"), ("event", "tick")], by decide +kernel,
      by decide +kernel, by decide +kernel⟩
  have hget : Asks defaultRoutes { target := "/events?stream=news" } "news" :=
    ⟨rfl, by decide +kernel, ⟨[("stream", "news")], by decide +kernel, by decide +kernel⟩,
      by decide +kernel⟩
  refine ⟨hserve, ?_⟩
  intro h r
  have hshown := published_reads_back {} { autoStream := true } (fun _ => true) _ defaultRoutes
    hserve ⟨rfl, rfl, rfl⟩ (by decide) "news" (by decide) h r _ _ (.empty 202)
    (Continues.refl.run [Op.publish "news" { data := [97] }]) (by decide +kernel) hpost
    (by decide +kernel) rfl hget
  have hnumbered : h.server.assigned "news" { name := [116, 105, 99, 107], data := [98] } =
      { id := [50], name := [116, 105, 99, 107], data := [98] } := by decide +kernel
  rwa [hnumbered] at hshown

/-- It is not so for the empty name, nor with queues of any size that the rules allow. -/
theorem published_not_read_back :
    (¬∀ (settings : ServerConfig) (server : Server) (routes : Routes) (name : String),
      Program.serve {} settings (fun _ => true) = .ok (server, routes) →
      server.config.KeepsAll → server.config.queueCapacity ≤ maxQueueCapacity →
      server.ReadsBack routes name) ∧
    ¬∀ (settings : ServerConfig) (server : Server) (routes : Routes) (name : String),
      Program.serve {} settings (fun _ => true) = .ok (server, routes) →
      server.config.KeepsAll → name ≠ "" → server.ReadsBack routes name := by
  refine ⟨?_, ?_⟩
  · intro hall
    let settings : ServerConfig := { autoStream := true }
    have hreads := hall settings (serving settings) defaultRoutes "" (by decide +kernel)
      ⟨rfl, rfl, rfl⟩ (by decide)
    obtain ⟨_, _, _, hopened, _⟩ := hreads { server := serving settings }
      { method := "POST", target := "/publish?stream=", body := [120] }
      { target := "/events?stream=" } { data := [120] } (.empty 202) .refl rfl
      ⟨rfl, by decide +kernel, [("stream", "")], by decide +kernel, by decide +kernel,
        by decide +kernel⟩
      (by decide +kernel) rfl
      ⟨rfl, by decide +kernel, ⟨[("stream", "")], by decide +kernel, by decide +kernel⟩,
        by decide +kernel⟩
    have hrefused : (handle (handle (serving settings) defaultRoutes
        { method := "POST", target := "/publish?stream=", body := [120] }).1 defaultRoutes
        { target := "/events?stream=" }).2 = .whole (.plain 400 "missing stream parameter") := by
      decide +kernel
    rw [hrefused] at hopened
    cases hopened
  · intro hall
    let settings : ServerConfig :=
      { autoStream := true, queueCapacity := maxQueueCapacity + 1 }
    have hreads := hall settings (serving settings) defaultRoutes "news" (by decide +kernel)
      ⟨rfl, rfl, rfl⟩ (by decide)
    obtain ⟨_, _, _, hopened, _⟩ := hreads { server := serving settings }
      { method := "POST", target := "/publish?stream=news", body := [120] }
      { target := "/events?stream=news" } { data := [120] } (.empty 202) .refl rfl
      ⟨rfl, by decide +kernel, [("stream", "news")], by decide +kernel, by decide +kernel,
        by decide +kernel⟩
      (by decide +kernel) rfl
      ⟨rfl, by decide +kernel, ⟨[("stream", "news")], by decide +kernel, by decide +kernel⟩,
        by decide +kernel⟩
    have hbroken : (handle (handle (serving settings) defaultRoutes
        { method := "POST", target := "/publish?stream=news", body := [120] }).1 defaultRoutes
        { target := "/events?stream=news" }).2 = .broken .tooMuchRoom := by
      decide +kernel
    rw [hbroken] at hopened
    cases hopened

end Server
end EventBroker
