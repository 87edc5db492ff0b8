import EventBroker.Proofs.Registry.Reaches
import EventBroker.Proofs.Replay.Window
import EventBroker.Proofs.Server.History

/-!
What the streams of a server keep of what was published. The log of a stream object is
the end of what was published on that object, and what was published on the object that
a name leads to now is the end of what was ever published under the name.
-/
namespace EventBroker

namespace EventStream

/-- The log of a stream is the end of what was published on it, and it is empty where nothing is
to be kept. -/
structure Keeps (s : EventStream) (published : List Stored) : Prop where
  suffix : s.replay.entries <:+ published
  disabled : (s.settings.autoReplay && s.replay.isEnabled) = false → s.replay.entries = []

theorem keeps_new (name : String) (settings : StreamSettings) (auto : Bool)
    (published : List Stored) : (new name settings auto).Keeps published :=
  ⟨List.nil_suffix, fun _ => rfl⟩

/-- Only a publish adds to the log. -/
theorem Keeps.perform {s : EventStream} {published : List Stored} (h : s.Keeps published)
    (now : Nat) (op : Op) (hop : ∀ e, op ≠ .publish e) : (s.perform now op).Keeps published := by
  cases hquiet : op.isQuiet with
  | true =>
    rw [perform_of_isQuiet s now op hquiet]
    exact ⟨h.suffix, h.disabled⟩
  | false =>
    cases op with
    | publish e => exact absurd rfl (hop e)
    | remove => exact ⟨List.nil_suffix, fun _ => rfl⟩
    | closeIfIdle =>
      simp only [EventStream.perform, closeIfIdle]
      split
      · exact ⟨List.nil_suffix, fun _ => rfl⟩
      · exact h
    | subscribe | unsubscribe | receive | drop | advance => exact Bool.noConfusion hquiet

theorem Keeps.publish {s : EventStream} {published : List Stored} (h : s.Keeps published)
    (now : Nat) (e : Event) (hremoved : s.removed = false) :
    (s.perform now (.publish e)).Keeps (published ++ [⟨(s.stamp e).2, now⟩]) := by
  rw [EventStream.perform, publish_fst s now e hremoved]
  cases hauto : s.settings.autoReplay with
  | false =>
    have hempty : s.replay.entries = [] := h.disabled (by rw [hauto, Bool.false_and])
    rw [if_neg Bool.false_ne_true]
    refine ⟨?_, fun _ => hempty⟩
    rw [hempty]
    exact List.nil_suffix
  | true =>
    rw [if_pos rfl]
    cases henabled : s.replay.isEnabled with
    | false =>
      have hempty : s.replay.entries = [] := h.disabled (by rw [henabled, Bool.and_false])
      rw [s.replay.append_of_not_isEnabled now _ henabled]
      refine ⟨?_, fun _ => hempty⟩
      rw [hempty]
      exact List.nil_suffix
    | true =>
      refine ⟨?_, ?_⟩
      · exact (s.replay.append_suffix now _ henabled).trans
          (List.suffix_append_self_iff.mpr h.suffix)
      · intro hdisabled
        rw [Replay.isEnabled_append, hauto, henabled] at hdisabled
        cases hdisabled

theorem stamp_id_ne_nil (s : EventStream) (e : Event) : (s.stamp e).2.id ≠ [] := by
  unfold stamp
  split
  · exact Decimal.encode_ne_nil _
  · next hid => exact fun h => hid (by rw [h]; rfl)

end EventStream

namespace Server

open EventStream (Keeps)

def acts (s : Server) : Op → Nat → EventStream.Op → Prop
  | .createStream _ | .advance _ => fun _ _ => False
  | .publish _ e => fun _ o => o = .publish e
  | .attach _ lastEventId => fun _ o => o = .subscribe lastEventId
  | .removeStream _ | .stop => fun _ o => o = .remove
  | .poll number | .disconnect number => fun key o =>
    ∃ c, s.connection? number = some c ∧ key = c.stream ∧
      o ∈ Registry.connectionOps c.subscriber

theorem reaches_step (s : Server) (hs : s.registry.Sound) (op : Op) :
    s.registry.Reaches (s.acts op) (s.step op).registry := by
  have hconnection : ∀ number, op = .poll number ∨ op = .disconnect number →
      s.registry.Reaches (s.acts op) (s.step op).registry := by
    intro number hop
    rcases s.step_connection number op hop with ⟨_, hsame⟩ | ⟨c, hc, hattended⟩
    · rw [hsame]
      exact .refl
    · apply hattended.served.reaches
      rcases hop with rfl | rfl
      · exact fun o ho => ⟨c, hc, rfl, ho⟩
      · exact fun o ho => ⟨c, hc, rfl, ho⟩
  cases op with
  | createStream name => exact .inserted .refl (s.registry.inserted_insert name false)
  | removeStream name =>
    have hremove : ∀ key, s.acts (.removeStream name) key .remove := fun _ => rfl
    exact Registry.reaches_remove hremove s.registry name
  | publish name e =>
    rcases s.publish_cases hs name e with ⟨r, key, stream, hinserted, _, hpublish⟩ | ⟨_, hpublish⟩
    · rw [step, hpublish]
      exact (Registry.Reaches.refl.inserted hinserted).perform key s.now _ rfl
    · rw [step, hpublish]
      exact .refl
  | attach name lastEventId =>
    rcases s.attach_cases hs name lastEventId with
      ⟨r, key, stream, hinserted, _, ⟨fault, hattach⟩ | ⟨subscriber, replay, _, hattach⟩⟩ |
        ⟨_, hattach⟩
    · rw [step, hattach]
      exact (Registry.Reaches.refl.inserted hinserted).perform key s.now _ rfl
    · rw [step, hattach, opened, call_eq]
      exact (Registry.Reaches.refl.inserted hinserted).perform key s.now _ rfl
    · rw [step, hattach]
      exact .refl
  | poll number => exact hconnection number (Or.inl rfl)
  | disconnect number => exact hconnection number (Or.inr rfl)
  | advance d => exact .refl
  | stop =>
    have hremove : ∀ key, s.acts .stop key .remove := fun _ => rfl
    exact Registry.reaches_removeAll hremove s.registry

/-- Only a publish makes a stream publish. -/
theorem ne_publish_of_acts (s : Server) (op : Op) (hop : ∀ name e, op ≠ .publish name e)
    (key : Nat) (o : EventStream.Op) (ho : s.acts op key o) (e : Event) : o ≠ .publish e := by
  rintro rfl
  cases op with
  | createStream | advance => exact ho
  | publish name e' => exact hop name e' rfl
  | attach | removeStream | stop => cases ho
  | poll | disconnect =>
    obtain ⟨c, _, _, hmem⟩ := ho
    simp [Registry.connectionOps] at hmem

/-- A publish reaches the stream that the name leads to, with the event as the stream stamps it. -/
theorem publication_cases (s : Server) (hs : s.registry.Sound) (name : String) (e : Event) :
    (∃ r key stream, s.registry.Inserted name true r key ∧ r.stream? key = some stream ∧
        stream.removed = false ∧
        s.step (.publish name e) = { s with registry := r.perform key s.now (.publish e) } ∧
        (Moment.mk s (.publish name e)).publication =
          some (key, ⟨(stream.stamp e).2, s.now⟩)) ∨
      s.registry.key? name = none ∧ s.step (.publish name e) = s ∧
        (Moment.mk s (.publish name e)).publication = none := by
  rcases s.resolve_cases name with ⟨r, key, hinserted, hresolve⟩ | ⟨hkey, hresolve⟩
  · left
    obtain ⟨stream, hstream, hremoved⟩ := hinserted.exists_stream hs
    have hpublished : (stream.publish s.now e).2 = true := by
      simp only [EventStream.publish, hremoved, Bool.false_eq_true, if_false]
    have hpublishOn : ({ s with registry := r } : Server).publishOn key e =
        ({ s with registry := r.perform key s.now (.publish e) }, true) := by
      simp only [publishOn, r.publish_eq key s.now e stream hstream, hpublished]
    refine ⟨r, key, stream, hinserted, hstream, hremoved, ?_, ?_⟩
    · simp only [step, publish, hresolve, hpublishOn]
    · simp only [Moment.publication, hresolve, hpublishOn, if_true, hstream, Option.map_some]
  · right
    refine ⟨hkey, ?_, ?_⟩
    · simp only [step, publish, hresolve]
    · simp only [Moment.publication, hresolve]

namespace Moment

theorem publication_of_ne_publish (m : Moment) (hop : ∀ name e, m.op ≠ .publish name e) :
    m.publication = none := by
  obtain ⟨s, op⟩ := m
  cases op with
  | publish name e => exact absurd rfl (hop name e)
  | _ => rfl

theorem publishedOn_of_publication {m : Moment} {key : Nat} {x : Stored}
    (h : m.publication = some (key, x)) (k : Nat) :
    m.publishedOn k = if key = k then some x else none := by
  rw [publishedOn, h]
  rfl

theorem publishedOn_of_none {m : Moment} (h : m.publication = none) (k : Nat) :
    m.publishedOn k = none := by
  rw [publishedOn, h]
  rfl

theorem publishedAs_of_none {m : Moment} (h : m.publication = none) (name : String) :
    m.publishedAs name = none := by
  unfold publishedAs
  split
  · rw [h]
    exact ite_self _
  · rfl

end Moment

namespace History

open EventStream.History (filterMap_concat)

theorem publishedOn_step (h : History) (op : Op) (key : Nat) :
    (h.step op).publishedOn key = h.publishedOn key ++ ((h.moment op).publishedOn key).toList :=
  filterMap_concat _ h.past (h.moment op)

theorem publishedAs_step (h : History) (op : Op) (name : String) :
    (h.step op).publishedAs name = h.publishedAs name ++ ((h.moment op).publishedAs name).toList :=
  filterMap_concat _ h.past (h.moment op)

structure Recorded (config : ServerConfig) (h : History) : Prop where
  sound : h.server.Sound
  config_eq : h.server.config = config
  settings : h.server.registry.settings = config.streamSettings
  streams : ∀ key stream, h.server.registry.stream? key = some stream →
    stream.settings = config.streamSettings ∧ stream.Keeps (h.publishedOn key)
  unused : ∀ key, h.server.registry.stream? key = none → h.publishedOn key = []
  current : ∀ name key, h.server.registry.key? name = some key →
    h.publishedOn key <:+ h.publishedAs name

variable {config : ServerConfig} {h : History}

theorem step_config (s : Server) (hs : s.Sound) (op : Op) : (s.step op).config = s.config := by
  by_cases hop : op = .stop
  · rw [hop]
    rfl
  · exact (s.step_frame hs op hop).1

/-- An operation that publishes nothing. -/
theorem Recorded.silent (hr : h.Recorded config) (op : Op)
    (hnone : (h.moment op).publication = none)
    (hreaches : h.server.registry.Reaches (fun _ o => ∀ e, o ≠ .publish e)
      (h.server.step op).registry) :
    (h.step op).Recorded config := by
  have hon : ∀ key, (h.step op).publishedOn key = h.publishedOn key := by
    intro key
    rw [publishedOn_step, Moment.publishedOn_of_none hnone, Option.toList_none, List.append_nil]
  have has : ∀ name, (h.step op).publishedAs name = h.publishedAs name := by
    intro name
    rw [publishedAs_step, Moment.publishedAs_of_none hnone, Option.toList_none, List.append_nil]
  refine ⟨hr.sound.step op, (step_config _ hr.sound op).trans hr.config_eq,
    hreaches.settings_eq.trans hr.settings, ?_, ?_, ?_⟩
  · intro key stream hstream
    rw [hon]
    refine hreaches.streams
      (P := fun key stream => stream.settings = config.streamSettings ∧
        stream.Keeps (h.publishedOn key)) hr.streams ?_ ?_ key stream hstream
    · intro key name auto _
      exact ⟨hr.settings, EventStream.keeps_new _ _ _ _⟩
    · intro key stream now o ho hstream
      exact ⟨(stream.perform_identity now o).2.trans hstream.1, hstream.2.perform now o ho⟩
  · intro key hkey
    rw [hon]
    exact hr.unused key (hreaches.unused key hkey)
  · intro name key hkey
    rw [hon, has]
    refine hreaches.names (P := fun name key => h.publishedOn key <:+ h.publishedAs name)
      hr.current ?_ name key hkey
    intro name key hnone
    rw [hr.unused key hnone]
    exact List.nil_suffix

/-- A publish puts its event at the end of the log, of what was published on the stream and of
what was published under the name. -/
theorem Recorded.publish (hr : h.Recorded config) (name : String) (e : Event) :
    (h.step (.publish name e)).Recorded config := by
  rcases h.server.publication_cases hr.sound.registry name e with
    ⟨r, key, stream, hinserted, hstream, hremoved, hstep, hpublication⟩ | ⟨_, hsame, hnone⟩
  · let x : Stored := ⟨(stream.stamp e).2, h.server.now⟩
    have hinsert : h.server.registry.Reaches (fun _ _ => False) r := .inserted .refl hinserted
    have hregistry : (h.step (.publish name e)).server.registry =
        r.perform key h.server.now (.publish e) := congrArg (·.registry) hstep
    have hsound := hr.sound.step (.publish name e)
    have hon : ∀ k, (h.step (.publish name e)).publishedOn k =
        h.publishedOn k ++ if key = k then [x] else [] := by
      intro k
      have hk := Moment.publishedOn_of_publication (m := h.moment (.publish name e)) hpublication k
      rw [publishedOn_step, hk]
      split <;> rfl
    have has : ∀ n, (h.step (.publish name e)).publishedAs n =
        h.publishedAs n ++ if name = n then [x] else [] := by
      intro n
      have hpublication' : (h.moment (.publish name e)).publication = some (key, x) := hpublication
      rw [publishedAs_step, Moment.publishedAs, hpublication']
      simp only [moment]
      split <;> rfl
    -- What the look-up alone, which may make a stream, leaves as it was.
    have hstreams := hinsert.streams
      (P := fun key stream => stream.settings = config.streamSettings ∧
        stream.Keeps (h.publishedOn key)) hr.streams
      (fun _ _ _ _ => ⟨hr.settings, EventStream.keeps_new _ _ _ _⟩) fun _ _ _ _ hfalse => hfalse.elim
    have hcurrent := hinsert.names
      (P := fun name key => h.publishedOn key <:+ h.publishedAs name) hr.current
      fun name key hnone => by rw [hr.unused key hnone]; exact List.nil_suffix
    refine ⟨hsound, (step_config _ hr.sound _).trans hr.config_eq, ?_, ?_, ?_, ?_⟩
    · rw [hregistry]
      exact hinserted.settings.trans hr.settings
    · intro k stream' hstream'
      rw [hregistry, Registry.stream?_perform] at hstream'
      rw [hon]
      by_cases hk : k = key
      · rw [hk, if_pos rfl, hstream, Option.map_some, Option.some.injEq] at hstream'
        obtain ⟨hsettings, hkeeps⟩ := hstreams key stream hstream
        rw [hk, if_pos rfl, ← hstream']
        exact ⟨(stream.perform_identity _ _).2.trans hsettings, hkeeps.publish _ e hremoved⟩
      · rw [if_neg hk] at hstream'
        rw [if_neg (Ne.symm hk), List.append_nil]
        exact hstreams k stream' hstream'
    · intro k hk
      rw [hregistry, Registry.stream?_perform] at hk
      have hne : key ≠ k := by
        rintro rfl
        rw [if_pos rfl, hstream] at hk
        cases hk
      rw [if_neg (Ne.symm hne)] at hk
      rw [hon, if_neg hne, List.append_nil]
      exact hr.unused k (hinsert.unused k hk)
    · intro n k hk
      rw [hregistry] at hk
      have hsuffix := hcurrent n k hk
      rw [hon, has]
      by_cases hn : name = n
      · have hkey : key = k := by
          rw [← hn] at hk
          exact Option.some.inj (hinserted.key_eq.symm.trans hk)
        rw [if_pos hn, if_pos hkey]
        exact List.suffix_append_self_iff.mpr hsuffix
      · have hkey : key ≠ k := by
          rintro rfl
          exact hn ((hinserted.sound hr.sound.registry).key_inj name n key hinserted.key_eq hk)
        rw [if_neg hn, if_neg hkey, List.append_nil, List.append_nil]
        exact hsuffix
  · apply hr.silent _ hnone
    rw [hsame]
    exact .refl

theorem Recorded.step (hr : h.Recorded config) (op : Op) : (h.step op).Recorded config := by
  by_cases hop : ∃ name e, op = .publish name e
  · obtain ⟨name, e, rfl⟩ := hop
    exact hr.publish name e
  · have hne : ∀ name e, op ≠ .publish name e := fun name e heq => hop ⟨name, e, heq⟩
    apply hr.silent op (Moment.publication_of_ne_publish _ hne)
    exact (h.server.reaches_step hr.sound.registry op).mono (h.server.ne_publish_of_acts op hne)

theorem Reachable.recorded (hr : h.Reachable config) : h.Recorded config := by
  refine Continues.of_step hr ?_ fun h _ hrecorded op => hrecorded.step op
  refine ⟨sound_ofConfig config, rfl, rfl, ?_, fun _ _ => rfl, ?_⟩
  · intro key stream hstream
    cases hstream
  · intro name key hkey
    cases hkey

end History

end Server

end EventBroker
