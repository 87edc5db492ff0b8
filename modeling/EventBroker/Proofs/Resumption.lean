import EventBroker.Proofs.Client.Position
import EventBroker.Proofs.Server.Delivery

/-!
A client that comes back. Session after session it asks for what follows the id it
remembers, and each session may be cut anywhere: within the body, within a frame, or by
the client that refuses a frame. All sessions together hand out the events of the stream
that have data, in order and each once, and a session that is read to its end while
nothing is left to send completes them.
-/
namespace EventBroker

open EventStream (numbered idAt)
open EventBroker.Frame (heard hasField)
open Client (arrivals Position)

/-- A server with one of its clients, the events published on the stream that the client
follows, and the events that the client has handed out. -/
structure World where
  server : Server
  client : Client
  published : List Event := []
  delivered : List Event := []

/-- One session: the connection it gets, what the server is asked to do in the meantime,
and the chunks that arrive before the end. -/
structure Session where
  number : Nat
  ops : List Server.Op
  chunks : List Bytes
  ending : Ending

namespace World

def act (w : World) (name : String) (op : Server.Op) : World :=
  { w with
    server := w.server.step op
    published := w.published ++ (w.server.accepted name op).toList }

def attached (w : World) (name : String) : Server :=
  (w.server.attach name w.client.lastEventId).1

def read (w : World) (s : Session) : (Client × List Event) × Outcome :=
  Client.readChunks s.ending w.client.decoder (w.client, []) s.chunks

def session (w : World) (name : String) (s : Session) : World :=
  { server := (w.attached name).run s.ops
    client := (w.read s).1.1
    published := w.published ++ (w.attached name).published name s.ops
    delivered := w.delivered ++ (w.read s).1.2.reverse }

/-- What makes a session of the client: it is attached, its stream goes on without events that
bring an id of their own, its queue has room for each event that is published, and what
arrives is cut off the body at some place. -/
structure Admits (w : World) (name : String) (s : Session) : Prop where
  attached : (w.server.attach name w.client.lastEventId).2 = .ok s.number
  feeds : ∀ op ∈ s.ops, op.feeds name = true
  room : (w.attached name).keepsRoom name s.number s.ops = true
  cut : s.chunks.flatten <+: (w.attached name).body s.number s.ops

inductive Reachable (config : ServerConfig) (client : Client) (name : String) : World → Prop
  | start : Reachable config client name { server := .ofConfig config, client }
  | act {w : World} (hr : Reachable config client name w) (op : Server.Op)
      (hop : op.feeds name = true) : Reachable config client name (w.act name op)
  | session {w : World} (hr : Reachable config client name w) (s : Session)
      (hs : w.Admits name s) : Reachable config client name (w.session name s)

structure Keeps (w : World) (config : ServerConfig) (name : String) : Prop where
  feeds : w.server.Feeds name w.published
  config_eq : w.server.config = config
  base64 : w.client.config.base64 = config.base64
  position : ∃ n, n ≤ w.published.length ∧
    Position config.base64 w.published n n w.client.lastEventId w.delivered

theorem hasField_of_id (e : Event) (h : e.id ≠ []) : hasField e = true := by
  have hid : e.id.isEmpty = false := List.isEmpty_eq_false_iff.mpr h
  rw [hasField, hid]
  simp

theorem id_ne_nil_of_mem_numbered (events : List Event) (e : Event) (he : e ∈ numbered events) :
    e.id ≠ [] := by
  obtain ⟨n, hget⟩ := List.mem_iff_getElem?.mp he
  rw [Client.getElem?_numbered, Option.map_eq_some_iff] at hget
  obtain ⟨raw, _, rfl⟩ := hget
  exact Decimal.encode_ne_nil _

theorem Keeps.attached {w : World} {config : ServerConfig} {name : String}
    (h : w.Keeps config name) : (w.attached name).Feeds name w.published := by
  have hfeeds := h.feeds.step (.attach name w.client.lastEventId) rfl
  have hnone : w.server.accepted name (.attach name w.client.lastEventId) = none := rfl
  rwa [hnone, Option.toList_none, List.append_nil] at hfeeds

theorem Keeps.attached_config {w : World} {config : ServerConfig} {name : String}
    (h : w.Keeps config name) : (w.attached name).config = config :=
  (w.server.step_frame h.feeds.sound (.attach name w.client.lastEventId) nofun).1.trans h.config_eq

/-- The body of a session: what was said to the client, and how its decoder reads it. -/
theorem Keeps.body {w : World} {config : ServerConfig} {name : String} (h : w.Keeps config name)
    (s : Session) (hs : w.Admits name s) (n : Nat) (hn : n ≤ w.published.length)
    (hremembers : w.client.lastEventId = idAt n) :
    ∃ said : List (Option Event),
      ((w.attached name).run s.ops).Delivers name s.number (said.filterMap id)
        ((numbered (w.session name s).published).drop n) ∧
      ∃ d, w.client.decoder.scan ((w.attached name).body s.number s.ops) =
        .ok (d, said.map (heard config.base64)) := by
  have hattached := hs.attached
  have hdelivers : (w.attached name).Delivers name s.number [] ((numbered w.published).drop n) := by
    unfold World.attached
    rw [hremembers] at hattached ⊢
    exact Server.delivers_attach h.feeds hn hattached
  obtain ⟨said, hbody, hrun⟩ := hdelivers.run h.attached hn s.ops hs.feeds hs.room
  rw [List.nil_append] at hrun
  have hfield : ∀ e, some e ∈ said → hasField e = true := by
    intro e he
    have hsent : e ∈ said.filterMap id := List.mem_filterMap.mpr ⟨some e, he, rfl⟩
    have hdue := List.mem_of_mem_drop (hrun.sent_first.subset hsent)
    exact hasField_of_id e (id_ne_nil_of_mem_numbered _ e hdue)
  have hscan := Frame.Decoder.scan_flatMap_spell w.client.config.maxBufferSize config.base64 said
    hfield []
  rw [List.append_nil, Frame.Decoder.scan_nil, Frame.Decoder.prepend_ok, List.append_nil] at hscan
  refine ⟨said, hrun, .new w.client.config.maxBufferSize config.base64, ?_⟩
  rw [hbody, h.attached_config, Client.decoder, h.base64]
  exact hscan

/-- How far a session gets the client; to the end if nothing stands in the way. -/
theorem Keeps.reads {w : World} {config : ServerConfig} {name : String} (h : w.Keeps config name)
    (s : Session) (hs : w.Admits name s) :
    ∃ last passed, passed ≤ (w.session name s).published.length ∧
      Position config.base64 (w.session name s).published last passed
        (w.session name s).client.lastEventId (w.session name s).delivered ∧
      (w.session name s).client.config = w.client.config ∧
      (s.chunks.flatten = (w.attached name).body s.number s.ops →
        (∀ fault, (w.read s).2 ≠ .failed (.protocol fault)) →
        ((w.attached name).run s.ops).drained s.number = true →
        passed = (w.session name s).published.length) := by
  obtain ⟨n, hn, hposition⟩ := h.position
  obtain ⟨said, hrun, d, hscan⟩ := h.body s hs n hn hposition.remembers
  obtain ⟨got, hgot, hread, hall⟩ := Client.readChunks_handles s.ending s.chunks w.client.decoder d
    (w.client, []) _ _ (Frame.Decoder.settled_new _ _) hscan hs.cut
  have htaken : got = (said.take got.length).map (heard config.base64) := by
    rw [List.map_take]
    exact List.prefix_iff_eq_take.mp hgot
  have hsent : (said.take got.length).filterMap id <+:
      (numbered (w.session name s).published).drop n :=
    (List.IsPrefix.filterMap id (List.take_prefix _ said)).trans hrun.sent_first
  have hstart : Position config.base64 (w.session name s).published n n w.client.lastEventId
      (w.delivered ++ [].reverse) := by
    rw [List.reverse_nil, List.append_nil]
    exact hposition.append hn _
  obtain ⟨last, hreached⟩ := Position.foldl_handle (said.take got.length) (w.client, [])
    hstart hsent
  have hclient : (w.session name s).client = (got.foldl Client.handle (w.client, [])).1 :=
    congrArg (·.1) hread
  have hdelivered : (w.session name s).delivered =
      w.delivered ++ (got.foldl Client.handle (w.client, [])).2.reverse :=
    congrArg (fun r : Client × List Event => w.delivered ++ r.2.reverse) hread
  have hlength : ((numbered (w.session name s).published).drop n).length =
      (w.session name s).published.length - n := by
    rw [List.length_drop, EventStream.length_numbered]
  have hpublished : n ≤ (w.session name s).published.length := by
    have happend : (w.session name s).published =
      w.published ++ (w.attached name).published name s.ops := rfl
    rw [happend, List.length_append]
    omega
  refine ⟨last, n + ((said.take got.length).filterMap id).length, ?_, ?_, ?_, ?_⟩
  · have hle := hsent.length_le
    omega
  · rw [hclient, hdelivered]
    rw [← htaken] at hreached
    exact hreached
  · rw [hclient]
    exact (Client.foldl_handle got (w.client, [])).2.1
  · intro hwhole hnever hdrained
    obtain ⟨d₁, hread⟩ := hall hnever
    rw [hwhole, hscan] at hread
    have hgotAll : said.map (heard config.base64) = got :=
      (Prod.mk.inj (Except.ok.inj hread)).2
    have htakeAll : said.take got.length = said := by
      rw [← hgotAll, List.length_map, List.take_length]
    rw [htakeAll, hrun.eq_of_drained hdrained, hlength]
    omega

theorem Keeps.act {w : World} {config : ServerConfig} {name : String} (h : w.Keeps config name)
    (op : Server.Op) (hop : op.feeds name = true) : (w.act name op).Keeps config name := by
  obtain ⟨n, hn, hposition⟩ := h.position
  have hframe := w.server.step_frame h.feeds.sound op (Server.ne_stop_of_feeds name op hop)
  refine ⟨h.feeds.step op hop, hframe.1.trans h.config_eq, h.base64, n, ?_, hposition.append hn _⟩
  exact Nat.le_trans hn (List.prefix_append _ _).length_le

theorem Keeps.session {w : World} {config : ServerConfig} {name : String}
    (h : w.Keeps config name) (s : Session) (hs : w.Admits name s) :
    (w.session name s).Keeps config name := by
  obtain ⟨last, passed, hpassed, hposition, hclient, _⟩ := h.reads s hs
  refine ⟨h.attached.run s.ops hs.feeds, ?_, ?_, last, Nat.le_trans hposition.last_le hpassed, ?_⟩
  · exact ((w.attached name).run_config h.attached.sound name s.ops hs.feeds).trans
      h.attached_config
  · rw [hclient]
    exact h.base64
  · exact ⟨Nat.le_refl _, hposition.remembers, hposition.latest, hposition.delivered_eq, rfl⟩

theorem keeps_start (config : ServerConfig) (client : Client) (name : String)
    (hauto : config.autoReplay = true) (httl : config.eventTtl = none)
    (hcapacity : config.replayCapacity = none) (hbase64 : client.config.base64 = config.base64)
    (hid : client.lastEventId = []) :
    Keeps { server := .ofConfig config, client } config name := by
  refine ⟨⟨Server.sound_ofConfig config, hauto, rfl, ?_⟩, rfl, hbase64, 0, Nat.le_refl _, ?_⟩
  · refine ⟨hauto, httl, hcapacity, fun _ => rfl, ?_⟩
    intro key stream hkey
    cases hkey
  · exact ⟨Nat.le_refl _, hid, hid, rfl, rfl⟩

theorem Reachable.keeps {config : ServerConfig} {client : Client} {name : String}
    (hauto : config.autoReplay = true) (httl : config.eventTtl = none)
    (hcapacity : config.replayCapacity = none) (hbase64 : client.config.base64 = config.base64)
    (hid : client.lastEventId = []) {w : World} (hr : w.Reachable config client name) :
    w.Keeps config name := by
  induction hr with
  | start => exact keeps_start config client name hauto httl hcapacity hbase64 hid
  | act _ op hop ih => exact ih.act op hop
  | session _ s hs ih => exact ih.session s hs

/-- All sessions together hand out the first ones of the events with data, in order, each once
and with its number as id, and the client remembers the number of the last one. A session
that is read to its end, while the connection has nothing left to send, completes them. -/
theorem resumption_exact (config : ServerConfig) (client : Client) (name : String)
    (hauto : config.autoReplay = true) (httl : config.eventTtl = none)
    (hcapacity : config.replayCapacity = none) (hbase64 : client.config.base64 = config.base64)
    (hid : client.lastEventId = []) (w : World) (hr : w.Reachable config client name) :
    w.delivered <+: arrivals config.base64 w.published ∧
      w.client.lastEventId = (w.delivered.getLast?.map (·.id)).getD [] ∧
      ∀ s, w.Admits name s → s.chunks.flatten = (w.attached name).body s.number s.ops →
        (∀ fault, (w.read s).2 ≠ .failed (.protocol fault)) →
        ((w.attached name).run s.ops).drained s.number = true →
        (w.session name s).delivered = arrivals config.base64 (w.session name s).published := by
  have hkeeps := hr.keeps hauto httl hcapacity hbase64 hid
  obtain ⟨n, _, hposition⟩ := hkeeps.position
  refine ⟨?_, hposition.latest, ?_⟩
  · rw [hposition.delivered_eq, Client.arrivals_eq]
    exact (List.IsPrefix.filter _ (List.take_prefix n _)).map _
  · intro s hs hwhole hnever hdrained
    obtain ⟨last, passed, _, hreached, _, hcomplete⟩ := hkeeps.reads s hs
    have hlength := hcomplete hwhole hnever hdrained
    rw [hreached.delivered_eq, ← hreached.silent, hlength, Client.arrivals_eq,
      ← EventStream.length_numbered, List.take_length]

def reader : Client := { config := {}, url := { scheme := "http" } }

/-- A stream with two events, and one without data between them. -/
def begun : World :=
  ([.createStream "news", .publish "news" { data := [97] }, .publish "news" { comment := [120] },
    .publish "news" { data := [98] }] : List Server.Op).foldl (·.act "news" ·)
    { server := .ofConfig {}, client := reader }

def firstOps : List Server.Op := [.poll 0, .poll 0, .publish "news" { data := [99] }, .poll 0]

/-- The connection breaks within the second frame. -/
def broken : Session :=
  { number := 0, ops := firstOps, chunks := [((begun.attached "news").body 0 firstOps).take 20],
    ending := .broken }

def resumedOps : List Server.Op := [.poll 1, .poll 0, .poll 1, .poll 1]

/-- All that is still due arrives, in two chunks. -/
def resumed : Session :=
  let body := ((begun.session "news" broken).attached "news").body 1 resumedOps
  { number := 1, ops := resumedOps, chunks := [body.take 7, body.drop 7], ending := .clean }

theorem resumption_exact_broken :
    (begun.session "news" broken).Reachable {} reader "news" ∧
      (begun.session "news" broken).delivered <+:
        arrivals false (begun.session "news" broken).published ∧
      (begun.session "news" broken).client.lastEventId = [49] ∧
      ((begun.session "news" broken).session "news" resumed).delivered =
        arrivals false ((begun.session "news" broken).session "news" resumed).published := by
  have hbegun : begun.Reachable {} reader "news" :=
    .act (.act (.act (.act .start _ rfl) _ rfl) _ rfl) _ rfl
  have hbroken : begun.Admits "news" broken :=
    ⟨rfl, by decide, by decide +kernel, by decide +kernel⟩
  have hreachable := Reachable.session hbegun broken hbroken
  have hresumed : (begun.session "news" broken).Admits "news" resumed :=
    ⟨rfl, by decide, by decide +kernel, by decide +kernel⟩
  obtain ⟨hfirst, hlatest, hcomplete⟩ :=
    resumption_exact {} reader "news" rfl rfl rfl rfl rfl _ hreachable
  have hended : ((begun.session "news" broken).read resumed).2 = .ended := by decide +kernel
  refine ⟨hreachable, hfirst, hlatest.trans (by decide +kernel), ?_⟩
  apply hcomplete resumed hresumed (by decide +kernel) _ (by decide +kernel)
  intro fault hfault
  cases hended.symm.trans hfault

end World

end EventBroker
