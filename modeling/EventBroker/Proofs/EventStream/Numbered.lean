import EventBroker.Proofs.Decimal
import EventBroker.Proofs.EventStream.Log

/-!
A stream that numbers its events. When every event is published without an id, the k-th
one gets the number k as its id, so a number tells where an event stands, and what
follows a number in the log is what was published after that event.
-/
namespace EventBroker.EventStream

def numberedFrom (k : Nat) (events : List Event) : List Event :=
  (events.zipIdx k).map fun (e, n) => { e with id := Decimal.encode n }

def numbered (events : List Event) : List Event := numberedFrom 1 events

theorem numberedFrom_cons (k : Nat) (e : Event) (events : List Event) :
    numberedFrom k (e :: events) =
      { e with id := Decimal.encode k } :: numberedFrom (k + 1) events :=
  rfl

theorem numbered_append (events news : List Event) :
    numbered (events ++ news) = numbered events ++ numberedFrom (events.length + 1) news := by
  unfold numbered numberedFrom
  rw [List.zipIdx_append, List.map_append, Nat.add_comm]

theorem length_numbered (events : List Event) : (numbered events).length = events.length := by
  rw [numbered, numberedFrom, List.length_map, List.length_zipIdx]

/-- The id that is remembered after `n` events: none at first, then the number of the last. -/
def idAt (n : Nat) : Bytes := if n = 0 then [] else Decimal.encode n

theorem behind?_numberedFrom (entries : List Stored) (k n : Nat) (events : List Event)
    (hentries : entries.map (·.event) = numberedFrom k events) (hk : k ≤ n)
    (hn : n < k + events.length) :
    Replay.behind? (Decimal.encode n) entries = some (entries.drop (n - k + 1)) := by
  induction events generalizing entries k with
  | nil =>
    rw [List.length_nil] at hn
    omega
  | cons e events ih =>
    rw [numberedFrom_cons, List.map_eq_cons_iff] at hentries
    obtain ⟨s, rest, rfl, hs, hrest⟩ := hentries
    rw [List.length_cons] at hn
    unfold Replay.behind?
    rw [hs]
    by_cases hkn : k = n
    · subst hkn
      rw [if_pos rfl, Nat.sub_self]
      rfl
    · have hne : Decimal.encode k ≠ Decimal.encode n := fun h =>
        hkn (Decimal.encode_injective k n h)
      have hsub : n - k + 1 = n - (k + 1) + 1 + 1 := by omega
      rw [if_neg hne, ih rest (k + 1) hrest (by omega) (by omega), hsub, List.drop_succ_cons]

structure Numbers (s : EventStream) (events : List Event) : Prop where
  kept : s.removed = false
  autoReplay : s.settings.autoReplay = true
  sequence : s.sequence = events.length
  logs : s.Logs (numbered events)

theorem numbers_new (name : String) (settings : StreamSettings) (auto : Bool)
    (hauto : settings.autoReplay = true) (httl : settings.ttl = none)
    (hcapacity : settings.capacity = none) : (new name settings auto).Numbers [] :=
  ⟨rfl, hauto, rfl, ⟨httl, hcapacity⟩, fun _ => rfl⟩

theorem Numbers.quiet {s : EventStream} {events : List Event} (h : s.Numbers events)
    (now : Nat) (op : Op) (hop : op.isQuiet = true) : (s.perform now op).Numbers events := by
  have hlogs := h.logs.quiet s now op _ hop
  rw [perform_of_isQuiet s now op hop] at hlogs ⊢
  exact ⟨h.kept, h.autoReplay, h.sequence, hlogs⟩

theorem stamp_of_isEmpty (s : EventStream) (e : Event) (he : e.id = []) :
    (s.stamp e).2 = { e with id := Decimal.encode (s.sequence + 1) } := by
  rw [stamp, he, List.isEmpty_nil, if_pos rfl]

theorem Numbers.publish {s : EventStream} {events : List Event} (h : s.Numbers events)
    (now : Nat) (e : Event) (he : e.id = []) :
    (s.perform now (.publish e)).Numbers (events ++ [e]) := by
  have hlogs := h.logs.publish s now e _ h.autoReplay h.kept
  rw [stamp_of_isEmpty s e he, h.sequence] at hlogs
  refine ⟨?_, ?_, ?_, ?_⟩
  · rw [perform, publish_fst s now e h.kept]
    exact h.kept
  · rw [perform, publish_fst s now e h.kept]
    exact h.autoReplay
  · rw [perform, publish_fst s now e h.kept]
    simp only [he, List.isEmpty_nil, if_true, h.sequence, List.length_append, List.length_singleton]
  · rw [numbered_append]
    exact hlogs

/-- A subscriber that asks for what follows the n-th event is given exactly that. -/
theorem Numbers.replay {s : EventStream} {events : List Event} (h : s.Numbers events)
    (now n id : Nat) (replay : List Stored) (hn : n ≤ events.length)
    (hok : (s.subscribe now (idAt n)).2 = .ok (id, replay)) :
    replay.map (·.event) = (numbered events).drop n := by
  obtain ⟨_, _, _, hreplay⟩ := s.subscribe_ok now (idAt n) id replay hok
  have hentries := h.logs.entries h.kept
  rw [hreplay, h.autoReplay, if_pos rfl]
  unfold idAt
  by_cases hzero : n = 0
  · rw [if_pos hzero, h.logs.unbounded.snapshot_nil now, hentries, hzero, List.drop_zero]
  · have hbehind := behind?_numberedFrom s.replay.entries 1 n events hentries (by omega) (by omega)
    have hsub : n - 1 + 1 = n := by omega
    rw [if_neg hzero, Replay.snapshot, if_neg (Decimal.encode_ne_nil n), hbehind]
    simp only
    rw [h.logs.unbounded.filter_live now, hsub, List.map_drop, hentries]

end EventBroker.EventStream
