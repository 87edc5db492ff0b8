import EventBroker.Proofs.EventStream.Numbered
import EventBroker.Proofs.Registry

/-!
One stream among others. The stream of one name numbers the events that are published
under that name, and a subscriber of it has a queue; neither notices what happens to
other streams and other subscribers, as long as the name is not taken away.
-/
namespace EventBroker

namespace EventStream

def Op.spares (id : Nat) : Op → Bool
  | .subscribe _ | .advance _ => true
  | .unsubscribe j | .receive j | .drop j => j != id
  | .publish _ | .remove | .closeIfIdle => false

theorem subscription?_of_spares (s : EventStream) (now id : Nat) (op : Op) (sub : Subscription)
    (hop : op.spares id = true) (hsub : s.subscription? id = some sub) :
    (s.perform now op).subscription? id = some sub := by
  rw [s.subscription?_perform_of_found now id op sub hsub]
  cases op with
  | unsubscribe j | receive j | drop j =>
    have hne : id ≠ j := Ne.symm (bne_iff_ne.mp hop)
    rw [becomes, if_neg hne]
  | subscribe | advance => rfl
  | publish | remove | closeIfIdle => exact Bool.noConfusion hop

end EventStream

namespace Registry

open EventStream (Op)

/-- The streams of a registry keep all events, and the one of a name numbers the events given. -/
structure Feeds (r : Registry) (name : String) (events : List Event) : Prop where
  autoReplay : r.settings.autoReplay = true
  ttl : r.settings.ttl = none
  capacity : r.settings.capacity = none
  absent : r.key? name = none → events = []
  present : ∀ key stream, r.key? name = some key → r.stream? key = some stream →
    stream.Numbers events

namespace Feeds

variable {r : Registry} {name : String} {events : List Event}

theorem inserted (h : r.Feeds name events) (hs : r.Sound) (n : String) (auto : Bool)
    (r' : Registry) (key : Nat) (hi : r.Inserted n auto r' key) : r'.Feeds name events := by
  have hsettings := hi.settings
  refine ⟨by rw [hsettings]; exact h.autoReplay, by rw [hsettings]; exact h.ttl,
    by rw [hsettings]; exact h.capacity, ?_, ?_⟩
  · intro hnone
    by_cases hn : name = n
    · rw [hn, hi.key_eq] at hnone
      cases hnone
    · exact h.absent ((hi.others name hn).symm.trans hnone)
  · intro k stream hk hstream
    -- A stream that was there before is the same as before.
    have hold : r.key? name = some k → stream.Numbers events := by
      intro hk
      obtain ⟨old, hfound, _⟩ := hs.named name k hk
      obtain rfl : old = stream := Option.some.inj ((hi.streams k old hfound).symm.trans hstream)
      exact h.present k old hk hfound
    by_cases hn : name = n
    · subst hn
      obtain rfl : key = k := Option.some.inj (hi.key_eq.symm.trans hk)
      rcases hi.fresh with hkey | ⟨hnone, hnew⟩
      · exact hold hkey
      · obtain rfl := Option.some.inj (hnew.symm.trans hstream)
        rw [h.absent hnone]
        exact EventStream.numbers_new name r.settings auto h.autoReplay h.ttl h.capacity
    · exact hold ((hi.others name hn).symm.trans hk)

theorem perform (h : r.Feeds name events) (key now : Nat) (op : Op) (news : List Event)
    (hnone : r.key? name = none → news = [])
    (hother : r.key? name ≠ some key → news = [])
    (hop : ∀ stream : EventStream, r.key? name = some key → stream.Numbers events →
      (stream.perform now op).Numbers (events ++ news)) :
    (r.perform key now op).Feeds name (events ++ news) := by
  refine ⟨h.autoReplay, h.ttl, h.capacity, ?_, ?_⟩
  · intro habsent
    rw [h.absent habsent, hnone habsent, List.append_nil]
  · intro k stream hk hstream
    have hname : r.key? name = some k := hk
    rw [stream?_perform] at hstream
    by_cases hkey : k = key
    · subst hkey
      rw [if_pos rfl, Option.map_eq_some_iff] at hstream
      obtain ⟨old, hold, rfl⟩ := hstream
      exact hop old hname (h.present k old hname hold)
    · rw [if_neg hkey] at hstream
      have hne : r.key? name ≠ some key := by
        rw [hname]
        exact fun heq => hkey (Option.some.inj heq)
      rw [hother hne, List.append_nil]
      exact h.present k stream hname hstream

/-- A step of the subscribers publishes nothing. -/
theorem quiet (h : r.Feeds name events) (key now : Nat) (op : Op) (hop : op.isQuiet = true) :
    (r.perform key now op).Feeds name events := by
  have hsame := h.perform key now op [] (fun _ => rfl) (fun _ => rfl) fun stream _ hnumbers => by
    rw [List.append_nil]
    exact hnumbers.quiet now op hop
  rwa [List.append_nil] at hsame

theorem other (h : r.Feeds name events) (key now : Nat) (op : Op)
    (hkey : r.key? name ≠ some key) : (r.perform key now op).Feeds name events := by
  have hsame := h.perform key now op [] (fun _ => rfl) (fun _ => rfl) fun stream hk _ =>
    absurd hk hkey
  rwa [List.append_nil] at hsame

theorem publish (h : r.Feeds name events) (key now : Nat) (e : Event) (he : e.id = [])
    (hkey : r.key? name = some key) :
    (r.perform key now (.publish e)).Feeds name (events ++ [e]) := by
  apply h.perform key now (.publish e) [e]
  · intro hnone
    rw [hnone] at hkey
    cases hkey
  · intro hne
    exact absurd hkey hne
  · intro stream _ hnumbers
    exact hnumbers.publish now e he

theorem served (h : r.Feeds name events) (key id : Nat) (r' : Registry)
    (hr : r.Served key id false r') : r'.Feeds name events := by
  induction hr with
  | refl => exact h
  | own _ now op hop ih =>
    apply ih.quiet key now op
    simp only [List.mem_cons, List.not_mem_nil, or_false] at hop
    rcases hop with rfl | rfl | rfl <;> rfl
  | release _ hreleases _ => exact Bool.noConfusion hreleases

theorem forget (h : r.Feeds name events) (n : String) (hn : name ≠ n) :
    (r.forget n).Feeds name events := by
  refine ⟨h.autoReplay, h.ttl, h.capacity, ?_, ?_⟩
  · intro hnone
    rw [key?_forget, if_neg hn] at hnone
    exact h.absent hnone
  · intro k stream hk hstream
    rw [key?_forget, if_neg hn] at hk
    exact h.present k stream hk hstream

theorem remove (h : r.Feeds name events) (hs : r.Sound) (n : String) (hn : name ≠ n) :
    (r.remove n).1.Feeds name events := by
  unfold Registry.remove
  cases hkey : r.key? n with
  | none => exact h
  | some key =>
    apply (h.forget n hn).other key 0 .remove
    rw [key?_forget, if_neg hn]
    exact fun hk => hn (hs.key_inj name n key hk hkey)

end Feeds

structure Queues (r : Registry) (name : String) (key id : Nat) (queue : List Event) : Prop where
  key_eq : r.key? name = some key
  found : ∃ stream sub, r.stream? key = some stream ∧ stream.subscription? id = some sub ∧
    sub.registered = true ∧ sub.queue = queue

namespace Queues

variable {r : Registry} {name : String} {key id : Nat} {queue : List Event}

theorem inserted (h : r.Queues name key id queue) (n : String) (auto : Bool) (r' : Registry)
    (k : Nat) (hi : r.Inserted n auto r' k) : r'.Queues name key id queue := by
  obtain ⟨stream, sub, hstream, hsub⟩ := h.found
  refine ⟨?_, stream, sub, hi.streams key stream hstream, hsub⟩
  by_cases hn : name = n
  · rw [← hn] at hi
    rw [hi.key_eq]
    rcases hi.fresh with hkey | ⟨hnone, _⟩
    · exact hkey.symm.trans h.key_eq
    · cases hnone.symm.trans h.key_eq
  · exact (hi.others name hn).trans h.key_eq

theorem perform (h : r.Queues name key id queue) (k now : Nat) (op : Op)
    (hop : k ≠ key ∨ op.spares id = true) : (r.perform k now op).Queues name key id queue := by
  obtain ⟨stream, sub, hstream, hsub, hrest⟩ := h.found
  refine ⟨h.key_eq, ?_⟩
  rw [stream?_perform, hstream]
  by_cases hk : key = k
  · rw [if_pos hk]
    rcases hop with hop | hop
    · exact absurd hk.symm hop
    · exact ⟨_, sub, rfl, stream.subscription?_of_spares now id op sub hop hsub, hrest⟩
  · rw [if_neg hk]
    exact ⟨stream, sub, rfl, hsub, hrest⟩

/-- A publish puts its event behind the others in a queue with room. -/
theorem publish (h : r.Queues name key id queue) (events : List Event)
    (hfeeds : r.Feeds name events) (now : Nat) (e : Event) (he : e.id = [])
    (hroom : ∀ stream, r.stream? key = some stream → stream.hasRoom id = true) :
    (r.perform key now (.publish e)).Queues name key id
      (queue ++ [{ e with id := Decimal.encode (events.length + 1) }]) := by
  obtain ⟨stream, sub, hstream, hsub, hregistered, rfl⟩ := h.found
  have hnumbers := hfeeds.present key stream h.key_eq hstream
  have hfits := hroom stream hstream
  simp only [EventStream.hasRoom, hsub, Option.any_some] at hfits
  refine ⟨h.key_eq, stream.perform now (.publish e),
    { sub with queue := sub.queue ++ [_] }, ?_, ?_, hregistered, rfl⟩
  · rw [stream?_perform, if_pos rfl, hstream]
    rfl
  · rw [stream.subscription?_perform_of_found now id _ sub hsub, EventStream.becomes,
      hnumbers.kept, if_neg Bool.false_ne_true, EventStream.stamp_of_isEmpty stream e he,
      hnumbers.sequence]
    simp only [Subscription.offer, hregistered, hfits, Bool.and_self, if_true]

/-- A receive takes the head of the queue. -/
theorem receive (h : r.Queues name key id queue) (now : Nat) :
    (r.perform key now (.receive id)).Queues name key id queue.tail := by
  obtain ⟨stream, sub, hstream, hsub, hregistered, rfl⟩ := h.found
  refine ⟨h.key_eq, stream.perform now (.receive id), { sub with queue := sub.queue.tail }, ?_, ?_,
    hregistered, rfl⟩
  · rw [stream?_perform, if_pos rfl, hstream]
    rfl
  · rw [stream.subscription?_perform_of_found now id _ sub hsub, EventStream.becomes, if_pos rfl]

/-- The connections of other subscribers leave the queue alone. -/
theorem served (h : r.Queues name key id queue) (k j : Nat) (r' : Registry)
    (hne : k = key → j ≠ id) (hr : r.Served k j false r') : r'.Queues name key id queue := by
  induction hr with
  | refl => exact h
  | own _ now op hop ih =>
    apply ih.perform k now op
    by_cases hk : k = key
    · right
      have hj : (j != id) = true := bne_iff_ne.mpr (hne hk)
      simp only [List.mem_cons, List.not_mem_nil, or_false] at hop
      rcases hop with rfl | rfl | rfl <;> exact hj
    · exact Or.inl hk
  | release _ hreleases _ => exact Bool.noConfusion hreleases

theorem remove (h : r.Queues name key id queue) (hs : r.Sound) (n : String) (hn : name ≠ n) :
    (r.remove n).1.Queues name key id queue := by
  unfold Registry.remove
  cases hkey : r.key? n with
  | none => exact h
  | some k =>
    have hforgotten : (r.forget n).Queues name key id queue := by
      refine ⟨?_, h.found⟩
      rw [key?_forget, if_neg hn]
      exact h.key_eq
    apply hforgotten.perform k 0 .remove
    left
    intro hk
    rw [hk] at hkey
    exact hn (hs.key_inj name n key h.key_eq hkey)

end Queues

end Registry

end EventBroker
