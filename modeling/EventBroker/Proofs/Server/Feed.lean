import EventBroker.Proofs.Registry.Feed
import EventBroker.Proofs.Server.Sound

/-!
One stream of a server that keeps all events. As long as nobody removes the stream or
publishes events with ids of their own, the stream numbers what is published on it and
its log holds all of it, whatever else the server is asked to do.
-/
namespace EventBroker.Server

/-- Whether a request lets the stream of a name go on, and gives its events no ids. -/
def Op.feeds (name : String) : Op → Bool
  | .removeStream n => n != name
  | .publish n e => n != name || e.id.isEmpty
  | .stop => false
  | .createStream _ | .attach _ _ | .poll _ | .disconnect _ | .advance _ => true

def accepted (s : Server) (name : String) : Op → Option Event
  | .publish n e => if n = name ∧ (s.publish n e).2 = true then some e else none
  | _ => none

theorem accepted_publish (s : Server) (name : String) (e : Event)
    (h : (s.publish name e).2 = true) : s.accepted name (.publish name e) = some e :=
  if_pos ⟨rfl, h⟩

theorem accepted_of_refused (s : Server) (name n : String) (e : Event)
    (h : (s.publish n e).2 = false) : s.accepted name (.publish n e) = none := by
  simp only [accepted, h, Bool.false_eq_true, and_false, if_false]

theorem accepted_of_ne (s : Server) (name n : String) (e : Event) (hn : n ≠ name) :
    s.accepted name (.publish n e) = none :=
  if_neg fun h => hn h.1

/-- A server that keeps all events, and that has published the events given under a name. -/
structure Feeds (s : Server) (name : String) (events : List Event) : Prop where
  sound : s.Sound
  autoReplay : s.config.autoReplay = true
  running : s.stopped = false
  registry : s.registry.Feeds name events

theorem ne_stop_of_feeds (name : String) (op : Op) (hop : op.feeds name = true) : op ≠ .stop := by
  rintro rfl
  exact Bool.noConfusion hop

/-- A publish on another stream does not reach the stream of a name. -/
theorem key_ne_of_inserted {r r' : Registry} {name n : String} {key : Nat}
    (hinserted : r.Inserted n true r' key) (hs : r'.Sound) (hn : n ≠ name) :
    r'.key? name ≠ some key :=
  fun hk => hn (hs.key_inj n name key hinserted.key_eq hk)

theorem Feeds.step {s : Server} {name : String} {events : List Event} (h : s.Feeds name events)
    (op : Op) (hop : op.feeds name = true) :
    (s.step op).Feeds name (events ++ (s.accepted name op).toList) := by
  have hframe := s.step_frame h.sound op (ne_stop_of_feeds name op hop)
  have hsound := h.sound.registry
  refine ⟨h.sound.step op, by rw [hframe.1]; exact h.autoReplay, hframe.2.1.trans h.running, ?_⟩
  -- All but a publish add nothing to the events.
  have hnothing : s.accepted name op = none →
      (s.step op).registry.Feeds name events →
      (s.step op).registry.Feeds name (events ++ (s.accepted name op).toList) := by
    intro hnone hfeeds
    rw [hnone, Option.toList_none, List.append_nil]
    exact hfeeds
  have hconnection : ∀ number op, op = .poll number ∨ op = .disconnect number →
      (s.step op).registry.Feeds name events := by
    intro number op hop
    rcases s.step_connection number op hop with ⟨_, hsame⟩ | ⟨c, _, hattended⟩
    · rw [hsame]
      exact h.registry
    · have hserved := hattended.served
      rw [h.autoReplay] at hserved
      exact h.registry.served c.stream c.subscriber _ hserved
  cases op with
  | createStream n =>
    exact hnothing rfl (h.registry.inserted hsound n false _ _ (s.registry.inserted_insert n false))
  | removeStream n =>
    exact hnothing rfl (h.registry.remove hsound n (Ne.symm (bne_iff_ne.mp hop)))
  | publish n e =>
    rcases s.publish_cases hsound n e with
      ⟨r, key, stream, hinserted, hstream, hpublish⟩ | ⟨_, hpublish⟩
    · have hfeeds := h.registry.inserted hsound n true r key hinserted
      by_cases hn : n = name
      · subst hn
        have hid : e.id = [] := by simpa [Op.feeds] using hop
        rw [s.accepted_publish n e (by rw [hpublish]), Server.step, hpublish]
        exact hfeeds.publish key s.now e hid hinserted.key_eq
      · apply hnothing (s.accepted_of_ne name n e hn)
        rw [Server.step, hpublish]
        exact hfeeds.other key s.now _ (key_ne_of_inserted hinserted (hinserted.sound hsound) hn)
    · apply hnothing (s.accepted_of_refused name n e (by rw [hpublish]))
      rw [Server.step, hpublish]
      exact h.registry
  | attach n lastEventId =>
    apply hnothing rfl
    rcases s.attach_cases hsound n lastEventId with
      ⟨r, key, stream, hinserted, _, ⟨fault, hattach⟩ | ⟨subscriber, replay, _, hattach⟩⟩ |
        ⟨_, hattach⟩
    · rw [Server.step, hattach]
      exact (h.registry.inserted hsound n true r key hinserted).quiet key s.now _ rfl
    · rw [Server.step, hattach, opened, call_eq]
      exact (h.registry.inserted hsound n true r key hinserted).quiet key s.now _ rfl
    · rw [Server.step, hattach]
      exact h.registry
  | poll number => exact hnothing rfl (hconnection number _ (Or.inl rfl))
  | disconnect number => exact hnothing rfl (hconnection number _ (Or.inr rfl))
  | advance d => exact hnothing rfl h.registry
  | stop => exact Bool.noConfusion hop

def run (s : Server) (ops : List Op) : Server := ops.foldl step s

def published (s : Server) (name : String) : List Op → List Event
  | [] => []
  | op :: ops => (s.accepted name op).toList ++ (s.step op).published name ops

theorem Feeds.run {s : Server} {name : String} {events : List Event} (h : s.Feeds name events)
    (ops : List Op) (hops : ∀ op ∈ ops, op.feeds name = true) :
    (s.run ops).Feeds name (events ++ s.published name ops) := by
  induction ops generalizing s events with
  | nil =>
    rw [published, List.append_nil]
    exact h
  | cons op ops ih =>
    rw [published, ← List.append_assoc]
    exact ih (h.step op (hops op List.mem_cons_self))
      fun o ho => hops o (List.mem_cons_of_mem op ho)

theorem run_config (s : Server) (hs : s.Sound) (name : String) (ops : List Op)
    (hops : ∀ op ∈ ops, op.feeds name = true) : (s.run ops).config = s.config := by
  induction ops generalizing s with
  | nil => rfl
  | cons op ops ih =>
    have hstep := s.step_frame hs op (ne_stop_of_feeds name op (hops op List.mem_cons_self))
    have hrun := ih (s.step op) (hs.step op) fun o ho => hops o (List.mem_cons_of_mem op ho)
    exact hrun.trans hstep.1

end EventBroker.Server
