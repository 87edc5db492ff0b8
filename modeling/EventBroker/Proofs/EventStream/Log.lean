import EventBroker.Proofs.EventStream.Lookup
import EventBroker.Proofs.Replay

/-!
The replay log of a stream that forgets nothing: as long as the stream is not removed,
the log holds all that was published.
-/
namespace EventBroker.EventStream

/-- An unlimited log of a stream holds all events given, until the stream is removed. -/
structure Logs (s : EventStream) (events : List Event) : Prop where
  unbounded : s.replay.Unbounded
  entries : s.removed = false → s.replay.entries.map (·.event) = events

theorem Logs.publish (s : EventStream) (now : Nat) (e : Event) (events : List Event)
    (h : s.Logs events) (hauto : s.settings.autoReplay = true) (hremoved : s.removed = false) :
    (s.publish now e).1.Logs (events ++ [(s.stamp e).2]) := by
  rw [publish_fst s now e hremoved, hauto, if_pos rfl]
  constructor
  · exact h.unbounded.append now _
  · intro _
    rw [h.unbounded.append_eq, List.map_append, h.entries hremoved]
    rfl

theorem Logs.clear (s : EventStream) (events : List Event) (h : s.Logs events)
    (subscriptions : List Subscription) :
    ({ s with removed := true, replay := s.replay.clear, subscriptions } : EventStream).Logs
      events :=
  ⟨⟨h.unbounded.ttl, h.unbounded.capacity⟩, fun hremoved => Bool.noConfusion hremoved⟩

theorem Logs.quiet (s : EventStream) (now : Nat) (op : Op) (events : List Event)
    (h : s.Logs events) (hop : op.isQuiet = true) : (s.perform now op).Logs events := by
  rw [perform_of_isQuiet s now op hop]
  exact ⟨h.unbounded, h.entries⟩

theorem Moment.published_of_isQuiet (m : Moment) (hop : m.op.isQuiet = true) :
    m.published = none := by
  obtain ⟨s, now, op⟩ := m
  cases op with
  | publish e => exact Bool.noConfusion hop
  | _ => rfl

theorem Logs.after (m : Moment) (events : List Event) (h : m.stream.Logs events)
    (hauto : m.stream.settings.autoReplay = true) :
    m.after.Logs (events ++ m.published.toList) := by
  cases hquiet : m.op.isQuiet with
  | true =>
    rw [m.published_of_isQuiet hquiet, Option.toList_none, List.append_nil]
    exact h.quiet _ _ _ _ hquiet
  | false =>
    obtain ⟨s, now, op⟩ := m
    have hnothing : s.Logs (events ++ []) := by
      rw [List.append_nil]
      exact h
    cases op with
    | publish e =>
      cases hremoved : s.removed with
      | true =>
        simp only [Moment.after, perform, Moment.published, publish_removed s now e hremoved,
          hremoved, if_true]
        exact hnothing
      | false =>
        simp only [Moment.after, perform, Moment.published, hremoved, Bool.false_eq_true, if_false,
          Option.toList_some]
        exact h.publish s now e events hauto hremoved
    | remove => exact hnothing.clear s _ _
    | closeIfIdle =>
      simp only [Moment.after, perform, closeIfIdle]
      split
      · exact hnothing.clear s _ _
      · exact hnothing
    | subscribe | unsubscribe | receive | drop | advance => exact Bool.noConfusion hquiet

end EventBroker.EventStream
