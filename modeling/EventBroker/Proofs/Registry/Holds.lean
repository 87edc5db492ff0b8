import EventBroker.Proofs.Registry.Reaches

/-!
A subscriber on a stream object, whatever becomes of the object. The subscriber is found
with its queue, and as long as it does not leave by itself it is registered exactly until
the object is removed; then its queue only gets shorter.
-/
namespace EventBroker

namespace EventStream

/-- Whether a step neither publishes nor is taken by a subscriber itself. -/
def Op.bypasses (id : Nat) : Op → Bool
  | .subscribe _ | .advance _ | .remove | .closeIfIdle => true
  | .unsubscribe j | .receive j | .drop j => j != id
  | .publish _ => false

theorem registered_of_isIdle (s : EventStream) (id : Nat) (sub : Subscription)
    (hidle : s.isIdle = true) (hsub : s.subscription? id = some sub) : sub.registered = false := by
  have hmem := List.mem_of_find?_eq_some hsub
  have hnot := List.all_eq_true.mp hidle sub hmem
  exact Bool.not_eq_true' _ ▸ hnot

/-- Such a step leaves the queue of the subscriber alone, and deregisters it with the end of the
stream alone. -/
theorem subscription?_of_bypasses (s : EventStream) (now id : Nat) (op : Op) (sub : Subscription)
    (hop : op.bypasses id = true) (hsub : s.subscription? id = some sub)
    (hregistered : sub.registered = !s.removed) :
    ∃ sub', (s.perform now op).subscription? id = some sub' ∧ sub'.queue = sub.queue ∧
      sub'.registered = !(s.perform now op).removed := by
  rw [s.subscription?_perform_of_found now id op sub hsub]
  cases op with
  | publish e => exact Bool.noConfusion hop
  | subscribe lastSeen =>
    refine ⟨sub, rfl, rfl, ?_⟩
    rw [s.perform_removed now _ rfl]
    exact hregistered
  | receive j =>
    have hne : id ≠ j := Ne.symm (bne_iff_ne.mp hop)
    refine ⟨sub, by rw [becomes, if_neg hne], rfl, ?_⟩
    rw [s.perform_removed now _ rfl]
    exact hregistered
  | unsubscribe j | drop j =>
    have hne : id ≠ j := Ne.symm (bne_iff_ne.mp hop)
    exact ⟨sub, by rw [becomes, if_neg hne], rfl, hregistered⟩
  | advance d => exact ⟨sub, rfl, rfl, hregistered⟩
  | remove => exact ⟨sub.deregister, rfl, rfl, rfl⟩
  | closeIfIdle =>
    refine ⟨sub, rfl, rfl, ?_⟩
    cases hidle : s.isIdle with
    | false =>
      simp only [perform, closeIfIdle, hidle, Bool.false_eq_true, if_false]
      exact hregistered
    | true =>
      simp only [perform, closeIfIdle, hidle, if_true]
      exact s.registered_of_isIdle id sub hidle hsub

end EventStream

namespace Registry

open EventStream (Op)

structure Holds (r : Registry) (key id : Nat) (queue : List Event) : Prop where
  found : ∃ stream sub, r.stream? key = some stream ∧ stream.subscription? id = some sub ∧
    sub.queue = queue ∧ sub.registered = !stream.removed

namespace Holds

variable {r r' : Registry} {key id : Nat} {queue : List Event}

theorem inserted (h : r.Holds key id queue) {name : String} {auto : Bool} {k : Nat}
    (hi : r.Inserted name auto r' k) : r'.Holds key id queue := by
  obtain ⟨stream, sub, hstream, hsub⟩ := h.found
  exact ⟨stream, sub, hi.streams key stream hstream, hsub⟩

theorem perform (h : r.Holds key id queue) (k now : Nat) (op : Op)
    (hop : k = key → op.bypasses id = true) : (r.perform k now op).Holds key id queue := by
  obtain ⟨stream, sub, hstream, hsub, hqueue, hregistered⟩ := h.found
  by_cases hk : key = k
  · obtain ⟨sub', hsub', hqueue', hregistered'⟩ :=
      stream.subscription?_of_bypasses now id op sub (hop hk.symm) hsub hregistered
    refine ⟨_, sub', ?_, hsub', hqueue'.trans hqueue, hregistered'⟩
    rw [stream?_perform, if_pos hk, hstream]
    rfl
  · refine ⟨stream, sub, ?_, hsub, hqueue, hregistered⟩
    rw [stream?_perform, if_neg hk]
    exact hstream

/-- What others do leaves a subscriber its queue. -/
theorem reaches {allowed : Nat → Op → Prop} (h : r.Holds key id queue)
    (hr : r.Reaches allowed r') (hallowed : ∀ op, allowed key op → op.bypasses id = true) :
    r'.Holds key id queue := by
  induction hr with
  | refl => exact h
  | inserted _ hi ih => exact ih.inserted hi
  | forget _ name ih => exact ⟨ih.found⟩
  | perform _ k now op hop ih =>
    apply ih.perform k now op
    rintro rfl
    exact hallowed op hop

/-- A receive takes the head of the queue. -/
theorem receive (h : r.Holds key id queue) (now : Nat) :
    (r.perform key now (.receive id)).Holds key id queue.tail := by
  obtain ⟨stream, sub, hstream, hsub, rfl, hregistered⟩ := h.found
  refine ⟨stream.perform now (.receive id), { sub with queue := sub.queue.tail }, ?_, ?_, rfl, ?_⟩
  · rw [stream?_perform, if_pos rfl, hstream]
    rfl
  · rw [stream.subscription?_perform_of_found now id _ sub hsub, EventStream.becomes, if_pos rfl]
  · rw [stream.perform_removed now _ rfl]
    exact hregistered

/-- A publish on the stream puts its event behind the others, if there is room. -/
theorem publish (h : r.Holds key id queue) (now : Nat) (e : Event) (stream : EventStream)
    (hstream : r.stream? key = some stream) (hremoved : stream.removed = false) :
    (r.perform key now (.publish e)).Holds key id
      (queue ++ if stream.hasRoom id then [(stream.stamp e).2] else []) := by
  obtain ⟨stream', sub, hstream', hsub, rfl, hregistered⟩ := h.found
  obtain rfl : stream' = stream := Option.some.inj (hstream'.symm.trans hstream)
  rw [hremoved, Bool.not_false] at hregistered
  have hroom : stream'.hasRoom id = decide (sub.queue.length < stream'.settings.queueCapacity) := by
    rw [EventStream.hasRoom, hsub, Option.any_some]
  refine ⟨stream'.perform now (.publish e),
    sub.offer stream'.settings.queueCapacity (stream'.stamp e).2, ?_, ?_, ?_, ?_⟩
  · rw [stream?_perform, if_pos rfl, hstream]
    rfl
  · rw [stream'.subscription?_perform_of_found now id _ sub hsub, EventStream.becomes, hremoved,
      if_neg Bool.false_ne_true]
  · rw [hroom, Subscription.offer, hregistered, Bool.true_and]
    split
    · rfl
    · exact (List.append_nil _).symm
  · rw [stream'.perform_removed now _ rfl, hremoved, Subscription.offer]
    split <;> exact hregistered

end Holds

end Registry

end EventBroker
