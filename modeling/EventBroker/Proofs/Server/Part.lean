import EventBroker.Proofs.Server.Confined
import EventBroker.Proofs.Server.Record

/-!
The part of a server that belongs to one name: its streams, its connections and the calls of
hooks that tell of them. An operation addressed to the name does to the part what it does to the
whole server and is answered the same. Streams and connections are numbered anew in the part, in
the same order.
-/
namespace EventBroker

def Connection.within (c : Connection) (r : Registry) (name : String) : Connection :=
  { c with stream := r.place name c.stream }

namespace Server

structure Part (name : String) (made : List String) (s t : Server) : Prop where
  config : t.config = s.config
  now : t.now = s.now
  stopped : t.stopped = s.stopped
  hooked : t.hooked = s.hooked
  registry : t.registry = s.registry.only name
  calls : t.calls = s.calls.filter (·.name == name)
  connections : ∀ number, made[number]? = some name →
    t.connection? (rank made name number) =
      (s.connection? number).map (·.within s.registry name)

/-- A connection keeps its place in the part. -/
theorem Filed.within_eq {made : List String} {s : Server} (hs : s.Filed made) (r : Registry)
    (hgrow : s.registry.titles <+: r.titles) (name : String) (number : Nat) :
    (s.connection? number).map (·.within r name) =
      (s.connection? number).map (·.within s.registry name) := by
  cases hc : s.connection? number with
  | none => rfl
  | some c =>
    obtain ⟨n, _, hkey⟩ := hs.attached number c hc
    rw [Option.map_some, Option.map_some, Connection.within, Connection.within,
      Registry.place_of_grow hgrow hkey]

theorem publishOn_eq (s : Server) (key : Nat) (e : Event) (stream : EventStream)
    (hstream : s.registry.stream? key = some stream) :
    s.publishOn key e =
      ({ s with registry := s.registry.perform key s.now (.publish e) },
        (stream.publish s.now e).2) := by
  rw [publishOn, s.registry.publish_eq key s.now e stream hstream]

theorem publication_of_resolve (s : Server) (name : String) (e : Event) (r : Registry) (key : Nat)
    (stream : EventStream) (hresolve : s.resolve name = ({ s with registry := r }, some key))
    (hstream : r.stream? key = some stream) :
    (Moment.mk s (.publish name e)).publication =
      if (stream.publish s.now e).2 then some (key, ⟨(stream.stamp e).2, s.now⟩) else none := by
  simp only [Moment.publication, hresolve,
    publishOn_eq { s with registry := r } key e stream hstream, hstream, Option.map_some]

theorem opened_eq (s : Server) (name : String) (r : Registry) (c : Connection) :
    s.opened name r c =
      { s with
        registry := r
        connections := s.connections ++ [(s.nextConnection, c)]
        nextConnection := s.nextConnection + 1
        calls := s.calls ++ s.heard [.subscribe name c.subscriber] } := by
  rw [opened, call_eq, calls_call]
  rfl

namespace Part

variable {name : String} {made more : List String} {s s' t : Server}

/-- An operation addressed to another name leaves the part as it is. -/
theorem of_confined (h : Part name made s t) (hs : s.Filed made) {n : String}
    (hc : s.Confined n made more s') (hn : n ≠ name) : Part name (made ++ more) s' t := by
  refine ⟨h.config.trans hc.config.symm, h.now.trans hc.now.symm, h.stopped.trans hc.stopped.symm,
    h.hooked.trans hc.hooked.symm, ?_, ?_, ?_⟩
  · rw [h.registry, hc.registry.only_eq hs.labelled name hn]
  · obtain ⟨calls, hcalls, hnames⟩ := hc.calls
    have hnone : calls.filter (·.name == name) = [] := by
      rw [List.filter_eq_nil_iff]
      intro call hcall
      rw [hnames call hcall, beq_iff_eq]
      exact hn
    rw [h.calls, hcalls, List.filter_append, hnone, List.append_nil]
  · intro number hnumber
    have hold : made[number]? = some name := by
      rcases Nat.lt_or_ge number made.length with hlt | hge
      · rw [List.getElem?_append_left hlt] at hnumber
        exact hnumber
      · rw [List.getElem?_append_right hge] at hnumber
        exact absurd (hc.names name (List.mem_of_getElem? hnumber)).symm hn
    have hlt := (List.getElem?_eq_some_iff.mp hold).1
    rw [rank_append made more name number (Nat.le_of_lt hlt), h.connections number hold,
      hc.others number name hold hn.symm]
    exact (hs.within_eq s'.registry hc.registry.titles_grow name number).symm

/-- The same change of the whole and of the part. -/
theorem with_registry (h : Part name made s t) (hs : s.Filed made) (r : Registry)
    (hr : s.registry.Touches name r) :
    Part name made { s with registry := r } { t with registry := r.only name } := by
  refine ⟨h.config, h.now, h.stopped, h.hooked, rfl, h.calls, ?_⟩
  intro number hnumber
  exact (h.connections number hnumber).trans (hs.within_eq r hr.titles_grow name number).symm

theorem resolve (h : Part name made s t) (hs : s.Filed made) {r : Registry} {key? : Option Nat}
    (hresolve : s.resolve name = ({ s with registry := r }, key?)) :
    t.resolve name = ({ t with registry := r.only name }, key?.map (r.place name)) := by
  have hconfig : t.config.autoStream = s.config.autoStream := by rw [h.config]
  unfold Server.resolve at hresolve ⊢
  cases hauto : s.config.autoStream with
  | true =>
    rw [if_pos hauto] at hresolve
    obtain ⟨hserver, hkey⟩ := Prod.mk.inj hresolve
    have hregistry : (s.registry.insert name true).1 = r := congrArg Server.registry hserver
    have hinsert : t.registry.getOrCreate name =
        (r.only name, r.place name (s.registry.insert name true).2) := by
      rw [h.registry, ← hregistry]
      exact hs.labelled.only_insert name true
    rw [if_pos (hconfig.trans hauto), hinsert, ← hkey]
    rfl
  | false =>
    rw [if_neg (by rw [hauto]; exact Bool.false_ne_true)] at hresolve
    obtain ⟨hserver, hkey⟩ := Prod.mk.inj hresolve
    have hregistry : s.registry = r := congrArg Server.registry hserver
    have hlookup : t.registry.key? name = key?.map (r.place name) := by
      rw [h.registry, Registry.key?_only, ← hkey, hregistry]
    have hsame : ({ t with registry := r.only name } : Server) = t := by
      rw [← hregistry, ← h.registry]
    rw [if_neg (by rw [hconfig, hauto]; exact Bool.false_ne_true), hlookup, hsame]

/-- A publish on a stream of the name is answered the same, and it publishes the same event. -/
theorem publishOn (h : Part name made s t) (hs : s.Filed made) {r : Registry}
    (hr : s.registry.Touches name r) {key : Nat} (hkey : r.titles[key]? = some name) (e : Event) :
    Part name made (({ s with registry := r } : Server).publishOn key e).1
        (({ t with registry := r.only name } : Server).publishOn (r.place name key) e).1 ∧
      (({ t with registry := r.only name } : Server).publishOn (r.place name key) e).2 =
        (({ s with registry := r } : Server).publishOn key e).2 := by
  obtain ⟨stream, hstream, _⟩ := (r.titles_eq_some_iff key name).mp hkey
  have hstream' := (r.stream?_only name key hkey).trans hstream
  have hpart := h.with_registry hs _ (hr.perform key s.now (.publish e) hkey)
  rw [publishOn_eq { s with registry := r } key e stream hstream,
    publishOn_eq { t with registry := r.only name } _ e stream hstream']
  refine ⟨?_, congrArg (fun now => (stream.publish now e).2) h.now⟩
  have hperform : (r.only name).perform (r.place name key) t.now (.publish e) =
      (r.perform key s.now (.publish e)).only name := by
    rw [r.only_perform_own name key s.now (.publish e) hkey, h.now]
  simp only [hperform]
  exact hpart

theorem publication (h : Part name made s t) (hs : s.Filed made) (e : Event) :
    (Moment.mk t (.publish name e)).publication.map (·.2) =
      (Moment.mk s (.publish name e)).publication.map (·.2) := by
  obtain ⟨r, key?, _, htitles, hresolve⟩ := s.resolve_outcome hs.labelled name
  have hresolve' := h.resolve hs hresolve
  cases key? with
  | none =>
    simp only [Moment.publication, hresolve, hresolve']
    rfl
  | some key =>
    have hkey := htitles key rfl
    obtain ⟨stream, hstream, _⟩ := (r.titles_eq_some_iff key name).mp hkey
    have hstream' := (r.stream?_only name key hkey).trans hstream
    rw [s.publication_of_resolve name e r key stream hresolve hstream,
      t.publication_of_resolve name e _ _ stream hresolve' hstream', h.now]
    split <;> rfl

theorem publish (h : Part name made s t) (hs : s.Filed made) (e : Event) :
    Part name made (s.publish name e).1 (t.publish name e).1 ∧
      (t.publish name e).2 = (s.publish name e).2 := by
  obtain ⟨r, key?, htouches, htitles, hresolve⟩ := s.resolve_outcome hs.labelled name
  simp only [Server.publish, hresolve, h.resolve hs hresolve]
  cases key? with
  | none => exact ⟨h.with_registry hs r htouches, rfl⟩
  | some key => exact h.publishOn hs htouches (htitles key rfl) e

theorem filter_heard (h : Part name made s t) (calls : List HookCall)
    (hnames : ∀ call ∈ calls, call.name = name) :
    t.heard calls = (s.heard calls).filter (·.name == name) := by
  have hall : calls.filter (·.name == name) = calls := by
    rw [List.filter_eq_self]
    exact fun call hcall => beq_iff_eq.mpr (hnames call hcall)
  rw [heard, heard, h.hooked]
  split
  · exact hall.symm
  · rfl

/-- A new connection of the name is the next one of the part. -/
theorem opened (h : Part name made s t) (hs : s.Filed made)
    (ht : t.Filed (made.filter (· == name))) {r : Registry} (hr : s.registry.Touches name r)
    (c : Connection) :
    Part name (made ++ [name]) (s.opened name r c)
      (t.opened name (r.only name) (c.within r name)) := by
  have hrank : rank made name made.length = t.nextConnection :=
    (rank_all made name).trans ht.next.symm
  have hcalls := h.filter_heard [.subscribe name c.subscriber]
    (List.forall_mem_singleton.mpr rfl)
  have hconnections : ∀ number, (made ++ [name])[number]? = some name →
      (t.opened name (r.only name) (c.within r name)).connection?
          (rank (made ++ [name]) name number) =
        ((s.opened name r c).connection? number).map (·.within r name) := by
    intro number hnumber
    have hle : number ≤ made.length := by
      have hlt := (List.getElem?_eq_some_iff.mp hnumber).1
      rw [List.length_append, List.length_singleton] at hlt
      omega
    rw [rank_append made [name] name number hle, connection?_opened, connection?_opened, hs.next,
      ← hrank]
    rcases Nat.eq_or_lt_of_le hle with rfl | hlt
    · rw [if_pos rfl, if_pos rfl, hrank, ht.sound.unused_number _ rfl,
        hs.sound.unused_number _ hs.next.symm]
      rfl
    · rw [List.getElem?_append_left hlt] at hnumber
      have hrankLt := rank_lt made name hnumber hlt
      rw [if_neg (Nat.ne_of_lt hlt), if_neg (Nat.ne_of_lt hrankLt), Option.or_none,
        Option.or_none, h.connections number hnumber,
        hs.within_eq r hr.titles_grow name number]
  rw [opened_eq, opened_eq] at *
  refine ⟨h.config, h.now, h.stopped, h.hooked, rfl, ?_, hconnections⟩
  rw [List.filter_append, h.calls]
  exact congrArg (_ ++ ·) hcalls

/-- An attach to a stream of the name is answered the same, but for the number. -/
theorem attach (h : Part name made s t) (hs : s.Filed made)
    (ht : t.Filed (made.filter (· == name))) (lastEventId : Bytes) :
    (∃ fault, (s.attach name lastEventId).2 = .error fault ∧
        (t.attach name lastEventId).2 = .error fault ∧
        Part name made (s.attach name lastEventId).1 (t.attach name lastEventId).1) ∨
      (s.attach name lastEventId).2 = .ok s.nextConnection ∧
        (t.attach name lastEventId).2 = .ok t.nextConnection ∧
        Part name (made ++ [name]) (s.attach name lastEventId).1 (t.attach name lastEventId).1 := by
  obtain ⟨r, key?, htouches, htitles, hresolve⟩ := s.resolve_outcome hs.labelled name
  rw [s.attach_eq_attachTo hs.sound.registry, t.attach_eq_attachTo ht.sound.registry, hresolve,
    h.resolve hs hresolve]
  cases key? with
  | none => exact Or.inl ⟨_, rfl, rfl, h.with_registry hs r htouches⟩
  | some key =>
    have hkey := htitles key rfl
    obtain ⟨stream, hstream, _⟩ := (r.titles_eq_some_iff key name).mp hkey
    have hstream' := (r.stream?_only name key hkey).trans hstream
    have htouches := htouches.perform key s.now (.subscribe lastEventId) hkey
    have hperform : (r.only name).perform (r.place name key) t.now (.subscribe lastEventId) =
        (r.perform key s.now (.subscribe lastEventId)).only name := by
      rw [r.only_perform_own name key s.now (.subscribe lastEventId) hkey, h.now]
    have hsubscribe : stream.subscribe t.now lastEventId = stream.subscribe s.now lastEventId := by
      rw [h.now]
    have hplace : (r.perform key s.now (.subscribe lastEventId)).place name key =
        r.place name key := by
      rw [Registry.place, Registry.titles_perform]
      rfl
    simp only [Option.map_some,
      attachTo_eq { s with registry := r } name key lastEventId stream hstream,
      attachTo_eq { t with registry := r.only name } name _ lastEventId stream hstream',
      hperform, hsubscribe]
    cases (stream.subscribe s.now lastEventId).2 with
    | error fault => exact Or.inl ⟨fault, rfl, rfl, h.with_registry hs _ htouches⟩
    | ok answer =>
      right
      have hopened := h.opened hs ht htouches
        { stream := key, subscriber := answer.1, replay := answer.2.map (·.event) }
      rw [Connection.within, hplace] at hopened
      exact ⟨rfl, rfl, hopened⟩

theorem receive (h : Part name made s t) {c : Connection}
    (hkey : s.registry.titles[c.stream]? = some name) :
    t.registry.receive (c.within s.registry name).stream c.subscriber =
      ((s.registry.receive c.stream c.subscriber).1.only name,
        (s.registry.receive c.stream c.subscriber).2) := by
  obtain ⟨stream, hstream, _⟩ := (s.registry.titles_eq_some_iff c.stream name).mp hkey
  have hstream' := (s.registry.stream?_only name c.stream hkey).trans hstream
  have hreceive := (s.registry.only name).receive_eq _ c.subscriber 0 stream hstream'
  rw [← s.registry.only_perform_own name c.stream 0 (.receive c.subscriber) hkey] at hreceive
  rw [h.registry, s.registry.receive_eq c.stream c.subscriber 0 stream hstream]
  exact hreceive

theorem keepAliveDue (h : Part name made s t) (c : Connection) :
    t.keepAliveDue (c.within s.registry name) = s.keepAliveDue c := by
  rw [Server.keepAliveDue, Server.keepAliveDue, h.config, h.now]
  rfl

/-- A connection of the name says the same in the part. -/
theorem nextFrame (h : Part name made s t) {c : Connection}
    (hkey : s.registry.titles[c.stream]? = some name) :
    t.nextFrame (c.within s.registry name) =
      ((s.nextFrame c).1.only name, (s.nextFrame c).2.1.within s.registry name,
        (s.nextFrame c).2.2) := by
  have hreceive := h.receive hkey
  have hdue := h.keepAliveDue c
  have hreplay : (c.within s.registry name).replay = c.replay := rfl
  have hsubscriber : (c.within s.registry name).subscriber = c.subscriber := rfl
  unfold Server.nextFrame
  rw [h.stopped, h.config, h.now, hreplay, hsubscriber, hreceive, hdue]
  cases s.stopped with
  | true =>
    rw [if_pos rfl, if_pos rfl, h.registry]
  | false =>
    rw [if_neg Bool.false_ne_true, if_neg Bool.false_ne_true]
    cases c.replay with
    | cons e rest =>
      simp only [h.registry]
      rfl
    | nil =>
      simp only
      generalize s.registry.receive c.stream c.subscriber = received
      obtain ⟨r, received⟩ := received
      cases received with
      | event e => rfl
      | closed => rfl
      | nothing =>
        simp only
        split <;> rfl

/-- A connection of the name has its place in the part. -/
theorem connection?_rank (h : Part name made s t) {number : Nat}
    (hnumber : made[number]? = some name) {c : Connection}
    (hc : s.connection? number = some c) :
    t.connection? (rank made name number) = some (c.within s.registry name) := by
  rw [h.connections number hnumber, hc, Option.map_some]

theorem rank_eq_iff {number k : Nat} (hnumber : made[number]? = some name)
    (hk : made[k]? = some name) : rank made name k = rank made name number ↔ k = number :=
  ⟨rank_inj made name hk hnumber, fun heq => by rw [heq]⟩

theorem spoken (h : Part name made s t) (hs : s.Filed made) {number : Nat}
    (hnumber : made[number]? = some name) {c : Connection}
    (hc : s.connection? number = some c) (hkey : s.registry.titles[c.stream]? = some name) :
    Part name made (s.spoken number c)
      (t.spoken (rank made name number) (c.within s.registry name)) := by
  have hconfined := s.confined_spoken made hs number c hc name hnumber
  have hgrow : s.registry.titles <+: (s.nextFrame c).1.titles := hconfined.registry.titles_grow
  have hspoken : t.spoken (rank made name number) (c.within s.registry name) =
      ({ t with registry := (s.nextFrame c).1.only name } : Server).setConnection
        (rank made name number) ((s.nextFrame c).2.1.within s.registry name) := by
    rw [Server.spoken, h.nextFrame hkey]
  rw [hspoken]
  refine ⟨h.config, h.now, h.stopped, h.hooked, rfl, h.calls, ?_⟩
  intro k hk
  have hold : t.connection? (rank made name k) =
      (s.connection? k).map (·.within (s.nextFrame c).1 name) :=
    (h.connections k hk).trans (hs.within_eq _ hgrow name k).symm
  have hplace : ((s.nextFrame c).2.1.within s.registry name) =
      (s.nextFrame c).2.1.within (s.nextFrame c).1 name := by
    rw [Connection.within, Connection.within, (s.nextFrame_served c).2.1,
      Registry.place_of_grow hgrow hkey]
  simp only [Server.spoken, connection?_setConnection]
  by_cases heq : k = number
  · rw [if_pos heq, if_pos ((rank_eq_iff hnumber hk).mpr heq), hplace]
    refine (congrArg (Option.map fun _ => _) hold).trans ?_
    change Option.map _ (Option.map _ (s.connection? k)) =
      Option.map _ (Option.map _ (s.connection? k))
    cases s.connection? k <;> rfl
  · rw [if_neg heq, if_neg fun h => heq ((rank_eq_iff hnumber hk).mp h)]
    exact hold

theorem registry_leave (h : Part name made s t) (hs : s.Filed made) {c : Connection}
    (hkey : s.registry.titles[c.stream]? = some name) :
    (t.leave (c.within s.registry name)).registry = (s.leave c).registry.only name := by
  obtain ⟨stream, hstream, _⟩ := (s.registry.titles_eq_some_iff c.stream name).mp hkey
  have hstream' : t.registry.stream? (c.within s.registry name).stream = some stream := by
    rw [h.registry]
    exact (s.registry.stream?_only name c.stream hkey).trans hstream
  rw [s.registry_leave c stream hstream, t.registry_leave _ stream hstream', h.registry, h.config]
  exact (hs.labelled.only_left name c.stream c.subscriber _ hkey).symm

theorem disconnect (h : Part name made s t) (hs : s.Filed made)
    (ht : t.Filed (made.filter (· == name))) {number : Nat} (hnumber : made[number]? = some name) :
    Part name made (s.disconnect number) (t.disconnect (rank made name number)) := by
  have hrank := getElem?_rank made name number hnumber
  cases hc : s.connection? number with
  | none =>
    have hgone : t.connection? (rank made name number) = none := by
      rw [h.connections number hnumber, hc, Option.map_none]
    have hsame : s.disconnect number = s := by rw [Server.disconnect, hc]
    have hsame' : t.disconnect (rank made name number) = t := by rw [Server.disconnect, hgone]
    rw [hsame, hsame']
    exact h
  | some c =>
    obtain ⟨n, hn, hkey⟩ := hs.attached number c hc
    obtain rfl : n = name := Option.some.inj (hn.symm.trans hnumber)
    have hc' := h.connection?_rank hnumber hc
    obtain ⟨m, hm, hkey'⟩ := ht.attached _ _ hc'
    obtain rfl : m = n := Option.some.inj (hm.symm.trans hrank)
    have hconfined := s.confined_disconnect made hs number m hnumber
    obtain ⟨hcalls, _⟩ := s.calls_disconnect number c m hc hkey
    obtain ⟨hcalls', _⟩ := t.calls_disconnect _ _ m hc' hkey'
    have hconfined' := t.confined_disconnect _ ht _ m hrank
    refine ⟨?_, ?_, ?_, ?_, ?_, ?_, ?_⟩
    · rw [hconfined'.config, hconfined.config, h.config]
    · rw [hconfined'.now, hconfined.now, h.now]
    · rw [hconfined'.stopped, hconfined.stopped, h.stopped]
    · rw [hconfined'.hooked, hconfined.hooked, h.hooked]
    · rw [s.registry_disconnect number c hc, t.registry_disconnect _ _ hc']
      exact h.registry_leave hs hkey
    · rw [hcalls, hcalls', List.filter_append, h.calls]
      exact congrArg (_ ++ ·) (h.filter_heard _ (List.forall_mem_singleton.mpr rfl))
    · intro k hk
      rw [connection?_disconnect, connection?_disconnect]
      by_cases heq : k = number
      · rw [if_pos heq, if_pos ((rank_eq_iff hnumber hk).mpr heq)]
        rfl
      · rw [if_neg heq, if_neg fun h => heq ((rank_eq_iff hnumber hk).mp h)]
        exact (h.connections k hk).trans
          (hs.within_eq _ hconfined.registry.titles_grow m k).symm

theorem poll (h : Part name made s t) (hs : s.Filed made)
    (ht : t.Filed (made.filter (· == name))) {number : Nat} (hnumber : made[number]? = some name) :
    Part name made (s.poll number).1 (t.poll (rank made name number)).1 ∧
      (t.poll (rank made name number)).2 = (s.poll number).2 := by
  cases hc : s.connection? number with
  | none =>
    have hgone : t.connection? (rank made name number) = none := by
      rw [h.connections number hnumber, hc, Option.map_none]
    have hsame : s.poll number = (s, .ended) := by rw [Server.poll, hc]
    have hsame' : t.poll (rank made name number) = (t, .ended) := by rw [Server.poll, hgone]
    rw [hsame, hsame']
    exact ⟨h, rfl⟩
  | some c =>
    obtain ⟨n, hn, hkey⟩ := hs.attached number c hc
    obtain rfl : n = name := Option.some.inj (hn.symm.trans hnumber)
    have hc' := h.connection?_rank hnumber hc
    have hspoken := h.spoken hs hnumber hc hkey
    rw [s.poll_eq number c hc, t.poll_eq _ _ hc', h.nextFrame hkey]
    refine ⟨?_, rfl⟩
    simp only
    split
    · exact hspoken.disconnect (hs.spoken number c hc) (ht.spoken _ _ hc') hnumber
    · exact hspoken

theorem createStream (h : Part name made s t) (hs : s.Filed made) :
    Part name made (s.createStream name).1 (t.createStream name).1 := by
  have hcreate : t.registry.create name =
      ((s.registry.create name).1.only name,
        (s.registry.create name).1.place name (s.registry.create name).2) := by
    rw [h.registry]
    exact hs.labelled.only_insert name false
  rw [Server.createStream, Server.createStream, hcreate]
  exact h.with_registry hs _ (Registry.Touches.refl.insert false)

theorem removeStream (h : Part name made s t) (hs : s.Filed made) :
    Part name made (s.removeStream name).1 (t.removeStream name).1 ∧
      (t.removeStream name).2 = (s.removeStream name).2 := by
  have hremove : t.registry.remove name =
      ((s.registry.remove name).1.only name, (s.registry.remove name).2) := by
    rw [h.registry]
    exact hs.labelled.only_remove name
  rw [Server.removeStream, Server.removeStream, hremove]
  exact ⟨h.with_registry hs _ (hs.labelled.touches_remove name), rfl⟩

theorem advance (h : Part name made s t) (d : Duration) :
    Part name made (s.advance d) (t.advance d) := by
  refine ⟨h.config, ?_, h.stopped, h.hooked, h.registry, h.calls, h.connections⟩
  exact congrArg (· + d.nanos) h.now

theorem stop (h : Part name made s t) (hs : s.Filed made) : Part name made s.stop t.stop := by
  have htitles : s.stop.registry.titles = s.registry.titles :=
    Registry.titles_foldl_removePair s.registry.names s.registry
  refine ⟨h.config, h.now, rfl, h.hooked, ?_, h.calls, ?_⟩
  · rw [Server.stop, h.registry]
    exact (hs.labelled.only_removeAll name).symm
  · intro number hnumber
    have hgrow : s.registry.titles <+: s.stop.registry.titles := by
      rw [htitles]
    exact (h.connections number hnumber).trans (hs.within_eq _ hgrow name number).symm

end Part

end Server

end EventBroker
