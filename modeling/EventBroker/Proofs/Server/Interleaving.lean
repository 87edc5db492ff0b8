import EventBroker.Proofs.Server.Persistence

/-!
A publish in two steps. It first looks its name up, and then publishes on the stream that it
was given, and others may come and go in between. The stream keeps its name, and takes the
event, unless replay is off, the stream came into being implicitly and a connection that left
it in between left nobody behind. Then it is released, and the event is refused: an attach
looks the name up again in this case, a publish does not.
-/
namespace EventBroker

namespace EventStream

theorem removed_closeIfIdle (s : EventStream) (now : Nat) (hidle : s.isIdle = true) :
    (s.perform now .closeIfIdle).removed = true := by
  simp only [perform, closeIfIdle, hidle, if_true]

end EventStream

namespace Server

/-- A connection that leaves takes the name of its stream away only together with its life. -/
theorem removed_leave (s : Server) (c : Connection) (stream : EventStream)
    (hstream : s.registry.stream? c.stream = some stream) (hreplay : s.config.autoReplay = false)
    (hcurrent : s.registry.key? stream.name = some c.stream) (hauto : stream.auto = true)
    (hidle : (stream.unsubscribe c.subscriber).isIdle = true) :
    ∃ left, (s.leave c).registry.stream? c.stream = some left ∧ left.removed = true := by
  let gone := stream.unsubscribe c.subscriber
  have hleft : (s.registry.perform c.stream 0 (.unsubscribe c.subscriber)).stream? c.stream =
      some gone := by
    rw [Registry.stream?_perform, if_pos rfl, hstream]
    rfl
  have hreleased : (s.registry.perform c.stream 0 (.unsubscribe c.subscriber)).key? gone.name =
      some c.stream ∧ gone.auto = true ∧ gone.isIdle = true := ⟨hcurrent, hauto, hidle⟩
  refine ⟨(gone.perform 0 .closeIfIdle).perform 0 (.drop c.subscriber), ?_, ?_⟩
  · rw [s.registry_leave c stream hstream, hauto, hreplay, if_pos (by decide),
      Registry.stream?_perform, if_pos rfl, Registry.releaseIfIdle_eq _ c.stream 0 gone hleft,
      if_pos hreleased, Registry.stream?_perform, if_pos rfl]
    exact congrArg (Option.map _) (congrArg (Option.map _) hleft)
  · exact (EventStream.perform_removed _ 0 (.drop c.subscriber) rfl).trans
      (gone.removed_closeIfIdle 0 hidle)

/-- A stream takes an event as long as it is not removed. -/
theorem publishOn_snd (s : Server) (key : Nat) (e : Event) (stream : EventStream)
    (hstream : s.registry.stream? key = some stream) :
    (s.publishOn key e).2 = !stream.removed := by
  simp only [publishOn, s.registry.publish_eq key s.now e stream hstream, EventStream.publish]
  cases stream.removed <;> rfl

namespace Moment

/-- An operation closes a connection that leaves an implicit stream without anybody attached. -/
def abandons (m : Moment) (key : Nat) : Prop :=
  ∃ number c stream, m.drops number c ∧ c.stream = key ∧
    m.server.registry.stream? key = some stream ∧ stream.auto = true ∧
    (stream.unsubscribe c.subscriber).isIdle = true

/-- What becomes of a stream that is registered: it keeps its name, or it is released as a
connection abandons it. -/
theorem kept_or_abandoned {m : Moment} (hs : m.server.Sound) {name : String} {key : Nat}
    (hkey : m.server.registry.key? name = some key) (hremove : m.op ≠ .removeStream name)
    (hstop : m.op ≠ .stop) :
    (m.after.registry.key? name = some key ∧
        ¬(m.server.config.autoReplay = false ∧ m.abandons key)) ∨
      m.server.config.autoReplay = false ∧ m.abandons key ∧
        ∃ stream, m.after.registry.stream? key = some stream ∧ stream.removed = true := by
  obtain ⟨stream, hstream, hname, _⟩ := hs.registry.named name key hkey
  have hleave : ∀ number c, m.drops number c → c.stream = key →
      m.after.registry.key? name =
        if m.server.config.autoReplay = false ∧ stream.auto = true ∧
          (stream.unsubscribe c.subscriber).isIdle = true then none else some key := by
    rintro number c hdrops rfl
    have hcurrent : m.server.registry.key? stream.name = some c.stream := by rw [hname, hkey]
    rw [registry_of_drops hs hdrops, m.server.key?_leave c stream hstream name, hcurrent, hkey,
      hname]
    simp only [true_and, and_true]
  by_cases habandoned : m.server.config.autoReplay = false ∧ m.abandons key
  · right
    obtain ⟨hreplay, number, c, found, hdrops, rfl, hfound, hauto, hidle⟩ := habandoned
    obtain rfl : found = stream := Option.some.inj (hfound.symm.trans hstream)
    refine ⟨hreplay, ⟨number, c, found, hdrops, rfl, hstream, hauto, hidle⟩, ?_⟩
    rw [registry_of_drops hs hdrops]
    refine m.server.removed_leave c found hstream hreplay ?_ hauto hidle
    rw [hname, hkey]
  · left
    refine ⟨?_, habandoned⟩
    by_contra hgone
    rcases op_of_unregisters hs ⟨hkey, hgone⟩ with hop | hop | ⟨number, c, hdrops⟩
    · exact hremove hop
    · exact hstop hop
    · obtain ⟨left, hleft, _⟩ := hs.subscriber_lt number c hdrops.1
      by_cases hc : c.stream = key
      · have hafter := hleave number c hdrops hc
        split at hafter
        · next hreleased =>
          exact habandoned ⟨hreleased.1, number, c, stream, hdrops, hc, hstream, hreleased.2⟩
        · exact hgone hafter
      · rw [registry_of_drops hs hdrops, m.server.key?_leave c left hleft name, hkey] at hgone
        split at hgone
        · next hreleased =>
          obtain ⟨⟨_, hcurrent, _⟩, hnames⟩ := hreleased
          rw [← hnames, hkey] at hcurrent
          exact hc (Option.some.inj hcurrent).symm
        · exact hgone rfl

end Moment

namespace History

variable {config : ServerConfig} {h : History}

/-- The first step of a publish: the name is looked up, which may make its stream. -/
def lookUp (h : History) (name : String) : History :=
  { h with server := (h.server.resolve name).1 }

/-- Where streams are made as they are asked for, a look-up finds or makes one. -/
theorem Recorded.lookUp (hr : h.Recorded config) (hauto : config.autoStream = true)
    (name : String) :
    (h.lookUp name).server.Sound ∧ (h.lookUp name).server.config = config ∧
      ∃ key, (h.server.resolve name).2 = some key ∧
        (h.lookUp name).server.registry.key? name = some key := by
  rcases h.server.resolve_cases name with ⟨r, key, hinserted, hresolve⟩ | ⟨_, hresolve⟩
  · have hserver : (h.lookUp name).server = { h.server with registry := r } :=
      congrArg (·.1) hresolve
    rw [hserver, hresolve]
    refine ⟨?_, hr.config_eq, key, rfl, hinserted.key_eq⟩
    exact hr.sound.of_extends r (hinserted.sound hr.sound.registry) hinserted.extends _ rfl rfl rfl
  · rw [resolve, hr.config_eq, if_pos hauto] at hresolve
    cases congrArg (·.2) hresolve

/-- A publish is its two steps with nothing in between. -/
theorem publish_eq_publishOn (s : Server) (name : String) (e : Event) (key : Nat)
    (hkey : (s.resolve name).2 = some key) :
    s.publish name e = (s.resolve name).1.publishOn key e := by
  unfold publish
  cases hresolve : s.resolve name with
  | mk s' found =>
    rw [hresolve] at hkey
    obtain rfl : found = some key := hkey
    rfl

/-- Between two moments a connection abandoned a stream where streams are released. -/
def Abandoned (config : ServerConfig) (start h : History) (key : Nat) : Prop :=
  config.autoReplay = false ∧ ∃ m ∈ start.since h, m.abandons key

structure Survives (config : ServerConfig) (start h : History) (name : String) (key : Nat) :
    Prop where
  sound : h.server.Sound
  config_eq : h.server.config = config
  fate : (¬Abandoned config start h key ∧ h.server.registry.key? name = some key) ∨
    Abandoned config start h key ∧
      ∃ stream, h.server.registry.stream? key = some stream ∧ stream.removed = true

theorem abandoned_step {start : History} (hc : start.Continues h) (op : Op) (key : Nat) :
    Abandoned config start (h.step op) key ↔
      Abandoned config start h key ∨ config.autoReplay = false ∧ (h.moment op).abandons key := by
  simp only [Abandoned, hc.since_step op, List.mem_append, List.mem_singleton, or_and_right,
    exists_or, exists_eq_left, and_or_left]

theorem not_abandoned_refl (start : History) (key : Nat) : ¬Abandoned config start start key := by
  rintro ⟨_, m, hm, _⟩
  rw [since, List.drop_length] at hm
  cases hm

theorem Survives.step {start : History} {name : String} {key : Nat}
    (hsurvives : Survives config start h name key) (hc : start.Continues h) (op : Op)
    (hremove : op ≠ .removeStream name) (hstop : op ≠ .stop) :
    Survives config start (h.step op) name key := by
  have hs := hsurvives.sound
  refine ⟨hs.step op, (step_config _ hs op).trans hsurvives.config_eq, ?_⟩
  rw [abandoned_step hc]
  rcases hsurvives.fate with ⟨hnot, hkey⟩ | ⟨habandoned, stream, hstream, hgone⟩
  · have hmoment := Moment.kept_or_abandoned (m := h.moment op) hs hkey hremove hstop
    have hconfig : (h.moment op).server.config = config := hsurvives.config_eq
    rw [hconfig] at hmoment
    rcases hmoment with ⟨hafter, hkept⟩ | ⟨hreplay, habandons, hremoved⟩
    · exact Or.inl ⟨not_or.mpr ⟨hnot, hkept⟩, hafter⟩
    · exact Or.inr ⟨Or.inr ⟨hreplay, habandons⟩, hremoved⟩
  · exact Or.inr ⟨Or.inl habandoned,
      (h.server.reaches_step hs.registry op).removed key stream hstream hgone⟩

theorem Survives.run {start : History} {name : String} {key : Nat}
    (hstart : Survives config start start name key) (hc : start.Continues h)
    (hkept : ∀ m ∈ start.since h, m.op ≠ .removeStream name ∧ m.op ≠ .stop) :
    Survives config start h name key := by
  refine Continues.of_step hc (P := fun h =>
    (∀ m ∈ start.since h, m.op ≠ .removeStream name ∧ m.op ≠ .stop) →
      Survives config start h name key) (fun _ => hstart) ?_ hkept
  intro h (hc : start.Continues h) ih op hkept
  rw [hc.since_step op] at hkept
  have hop := hkept _ (List.mem_append_right _ (List.mem_singleton_self _))
  exact (ih fun m hm => hkept m (List.mem_append_left _ hm)).step hc op hop.1 hop.2

/-- The stream takes the event exactly if it was not abandoned, and then it still has its name. -/
theorem Survives.publishOn {start : History} {name : String} {key : Nat}
    (hsurvives : Survives config start h name key) (e : Event) :
    ((h.server.publishOn key e).2 = true ↔ ¬Abandoned config start h key) ∧
      (¬Abandoned config start h key → h.server.registry.key? name = some key) := by
  rcases hsurvives.fate with ⟨hnot, hkey⟩ | ⟨habandoned, stream, hstream, hremoved⟩
  · obtain ⟨stream, hstream, _, hremoved⟩ := hsurvives.sound.registry.named name key hkey
    rw [h.server.publishOn_snd key e stream hstream, hremoved]
    exact ⟨iff_of_true rfl hnot, fun _ => hkey⟩
  · rw [h.server.publishOn_snd key e stream hstream, hremoved]
    exact ⟨iff_of_false Bool.false_ne_true fun hnot => hnot habandoned,
      fun hnot => (hnot habandoned).elim⟩

/-- Where streams are made as they are asked for, a look-up gives a publish its stream, and a
publish at once is accepted. After whatever others were asked for in between, the removal of the
name and the stop apart, the stream accepts the event exactly if no connection that left in
between abandoned it, and then it still has its name. Only an implicit stream without replay can
be abandoned. -/
theorem publish_after_lookup (config : ServerConfig) (hauto : config.autoStream = true)
    (h : History) (hr : h.Reachable config) (name : String) :
    ∃ key, (h.server.resolve name).2 = some key ∧
      (∀ e, h.server.publish name e = (h.lookUp name).server.publishOn key e ∧
        (h.server.publish name e).2 = true) ∧
      ∀ h', (h.lookUp name).Continues h' →
        (∀ m ∈ (h.lookUp name).since h', m.op ≠ .removeStream name ∧ m.op ≠ .stop) → ∀ e,
        ((h'.server.publishOn key e).2 = true ↔ ¬Abandoned config (h.lookUp name) h' key) ∧
          (¬Abandoned config (h.lookUp name) h' key →
            h'.server.registry.key? name = some key) := by
  obtain ⟨hsound, hconfig, key, hfound, hkey⟩ := hr.recorded.lookUp hauto name
  have hstart : Survives config (h.lookUp name) (h.lookUp name) name key :=
    ⟨hsound, hconfig, Or.inl ⟨not_abandoned_refl _ key, hkey⟩⟩
  refine ⟨key, hfound, ?_, fun h' hc hkept => (hstart.run hc hkept).publishOn⟩
  intro e
  have heq := publish_eq_publishOn h.server name e key hfound
  refine ⟨heq, ?_⟩
  rw [heq]
  exact (hstart.publishOn e).1.mpr (not_abandoned_refl _ key)

def attended (config : ServerConfig) : History := ofOps config [.attach "news" []]

/-- With replay on the stream takes the event also if its connection goes before. -/
theorem publish_after_lookup_attended :
    (attended { autoStream := true }).Reachable { autoStream := true } ∧
      ((attended { autoStream := true }).server.resolve "news").2 = some 0 ∧
      ((((attended { autoStream := true }).lookUp "news").run [.disconnect 0]).server.publishOn 0
        { data := [97] }).2 = true := by
  have hr : (attended { autoStream := true }).Reachable { autoStream := true } :=
    reachable_ofOps _ _
  have hkey : ((attended { autoStream := true }).server.resolve "news").2 = some 0 := by
    decide +kernel
  obtain ⟨key, hfound, _, hpublish⟩ := publish_after_lookup _ rfl _ hr "news"
  obtain rfl : key = 0 := Option.some.inj (hfound.symm.trans hkey)
  obtain ⟨haccepts, _⟩ := hpublish _ (Continues.refl.run [.disconnect 0]) (by decide +kernel)
    { data := [97] }
  exact ⟨hr, hkey, haccepts.mpr fun ⟨hreplay, _⟩ => nomatch hreplay⟩

/-- It is not so that with streams made as they are asked for an event is never refused: without
replay, the only connection of `news` leaves between the look-up and the publish. -/
theorem publish_after_lookup_refused :
    ¬∀ (config : ServerConfig) (h : History) (name : String) (key : Nat) (h' : History) (e : Event),
      config.autoStream = true → h.Reachable config → (h.server.resolve name).2 = some key →
      (h.lookUp name).Continues h' →
      (∀ m ∈ (h.lookUp name).since h', m.op ≠ .removeStream name ∧ m.op ≠ .stop) →
      (h'.server.publishOn key e).2 = true := by
  intro hall
  let unkept : ServerConfig := { autoStream := true, autoReplay := false }
  have haccepted := hall unkept (attended unkept) "news" 0 _ { data := [97] } rfl
    (reachable_ofOps _ _) (by decide +kernel) (Continues.refl.run [.disconnect 0])
    (by decide +kernel)
  have hrefused : ((((attended unkept).lookUp "news").run [.disconnect 0]).server.publishOn 0
      { data := [97] }).2 = false := by decide +kernel
  cases hrefused.symm.trans haccepted

end History

end Server

end EventBroker
