import EventBroker.Proofs.EventStream.Mailbox
import Mathlib.Data.List.Nodup

/-!
The registered subscribers of a stream. No two subscribers ever share an id, so one that
leaves takes no other registration away, and the stream is idle after that exactly if the
one that left was the last.
-/
namespace EventBroker.EventStream

structure IdsDistinct (s : EventStream) : Prop where
  below : s.IdsBelow
  nodup : (s.subscriptions.map (·.id)).Nodup

theorem idsDistinct_new (name : String) (settings : StreamSettings) (auto : Bool) :
    (new name settings auto).IdsDistinct :=
  ⟨fun _ _ => rfl, List.nodup_nil⟩

theorem map_id_map (subs : List Subscription) (f : Subscription → Subscription)
    (hf : ∀ sub, (f sub).id = sub.id) : (subs.map f).map (·.id) = subs.map (·.id) := by
  rw [List.map_map]
  exact List.map_congr_left fun sub _ => hf sub

theorem map_id_update (s : EventStream) (id : Nat) (f : Subscription → Subscription)
    (hf : ∀ sub, (f sub).id = sub.id) :
    (s.update id f).subscriptions.map (·.id) = s.subscriptions.map (·.id) := by
  apply map_id_map
  intro sub
  split
  · exact hf sub
  · rfl

/-- Only a subscribe adds an id, and that one is new. -/
theorem IdsDistinct.perform {s : EventStream} (hs : s.IdsDistinct) (now : Nat) (op : Op) :
    (s.perform now op).IdsDistinct := by
  have hsame (subs : List Subscription)
      (hids : subs.map (·.id) = s.subscriptions.map (·.id)) : (subs.map (·.id)).Nodup := by
    rw [hids]
    exact hs.nodup
  refine ⟨hs.below.perform now op, ?_⟩
  cases op with
  | publish e =>
    cases hremoved : s.removed with
    | true =>
      rw [EventStream.perform, publish_removed s now e hremoved]
      exact hs.nodup
    | false =>
      rw [EventStream.perform, publish_fst s now e hremoved]
      exact hsame _ (map_id_map _ _ fun sub => offer_id sub _ _)
  | subscribe lastSeen =>
    rcases s.subscribe_cases now lastSeen with ⟨_, hok⟩ | ⟨fault, next, _, _, hfault⟩
    · rw [EventStream.perform, hok, List.map_append, List.map_singleton,
        ← List.concat_eq_append, List.nodup_concat]
      refine ⟨?_, hs.nodup⟩
      intro hmem
      obtain ⟨sub, hsub, hid⟩ := List.mem_map.mp hmem
      have hnone := hs.below s.nextSubscriber (Nat.le_refl _)
      exact List.find?_eq_none.mp hnone sub hsub (beq_iff_eq.mpr hid)
    · rw [EventStream.perform, hfault]
      exact hs.nodup
  | unsubscribe id => exact hsame _ (s.map_id_update id .deregister fun _ => rfl)
  | receive id =>
    simp only [EventStream.perform, receive]
    split
    · exact hs.nodup
    · split
      · exact hsame _ (s.map_id_update id _ fun _ => rfl)
      · exact hs.nodup
  | drop id => exact (List.filter_sublist.map _).nodup hs.nodup
  | advance d => exact hs.nodup
  | remove => exact hsame _ (map_id_map _ _ fun _ => rfl)
  | closeIfIdle =>
    simp only [EventStream.perform, closeIfIdle]
    split <;> exact hs.nodup

theorem IdsDistinct.eq_of_id_eq {s : EventStream} (hs : s.IdsDistinct) {sub sub' : Subscription}
    (hsub : sub ∈ s.subscriptions) (hsub' : sub' ∈ s.subscriptions) (hid : sub.id = sub'.id) :
    sub = sub' :=
  List.inj_on_of_nodup_map hs.nodup hsub hsub' hid

structure IsLast (s : EventStream) (id : Nat) : Prop where
  registered : s.isRegistered id = true
  alone : s.subscriberCount = 1

theorem isIdle_unsubscribe_iff (s : EventStream) (id : Nat) :
    (s.unsubscribe id).isIdle = true ↔
      ∀ sub ∈ s.subscriptions, sub.registered = true → sub.id = id := by
  rw [isIdle, unsubscribe, update, List.all_map, List.all_eq_true]
  refine forall₂_congr fun sub _ => ?_
  rw [Function.comp_apply]
  by_cases hid : sub.id = id
  · rw [if_pos hid]
    exact ⟨fun _ _ => hid, fun _ => rfl⟩
  · rw [if_neg hid]
    cases sub.registered <;> simp [hid]

/-- A stream is idle when its last subscriber has left. -/
theorem IdsDistinct.isIdle_unsubscribe {s : EventStream} (hs : s.IdsDistinct) (id : Nat)
    (hregistered : s.isRegistered id = true) :
    (s.unsubscribe id).isIdle = true ↔ s.IsLast id := by
  obtain ⟨own, hown, hownRegistered⟩ := (Option.any_eq_true _ _).mp hregistered
  have hownId := s.id_of_subscription? id own hown
  have hownMem := List.mem_of_find?_eq_some hown
  have hcount : s.subscriberCount = (s.subscriptions.filter (·.registered)).length :=
    List.countP_eq_length_filter
  have hmem : own ∈ s.subscriptions.filter (·.registered) :=
    List.mem_filter.mpr ⟨hownMem, hownRegistered⟩
  rw [isIdle_unsubscribe_iff]
  constructor
  · intro hall
    have hequal : ∀ sub ∈ s.subscriptions.filter (·.registered), sub = own := by
      intro sub hsub
      obtain ⟨hsubMem, hsubRegistered⟩ := List.mem_filter.mp hsub
      have hid := hall sub hsubMem hsubRegistered
      exact hs.eq_of_id_eq hsubMem hownMem (hid.trans hownId.symm)
    have hnodup : (s.subscriptions.filter (·.registered)).Nodup := (hs.nodup.of_map _).filter _
    rw [List.eq_replicate_of_mem hequal, List.nodup_replicate] at hnodup
    have hpos := List.length_pos_of_mem hmem
    exact ⟨hregistered, by omega⟩
  · intro hlast sub hsub hsubRegistered
    have hlength := hlast.alone
    rw [hcount, List.length_eq_one_iff] at hlength
    obtain ⟨only, honly⟩ := hlength
    have hfound : sub ∈ s.subscriptions.filter (·.registered) :=
      List.mem_filter.mpr ⟨hsub, hsubRegistered⟩
    rw [honly, List.mem_singleton] at hmem hfound
    rw [hfound, ← hmem]
    exact hownId

/-- Two registered subscribers are not the last. -/
theorem IdsDistinct.not_isLast {s : EventStream} (hs : s.IdsDistinct) {id other : Nat}
    (hother : s.isRegistered other = true) (hne : other ≠ id) : ¬s.IsLast id := by
  intro hlast
  have hidle := (hs.isIdle_unsubscribe id hlast.registered).mpr hlast
  obtain ⟨sub, hsub, hregistered⟩ := (Option.any_eq_true _ _).mp hother
  have hid := (s.isIdle_unsubscribe_iff id).mp hidle sub (List.mem_of_find?_eq_some hsub) hregistered
  exact hne ((s.id_of_subscription? other sub hsub).symm.trans hid)

end EventBroker.EventStream
