import EventBroker.Proofs.EventStream.History

/-!
A stream after an operation. Each operation is described by what it does to a subscriber
that is looked up, so that no later argument opens the list of all of them, and by what it
leaves alone: only a publish or the end of the stream touches more than the subscribers.
-/
namespace EventBroker.EventStream

theorem id_of_subscription? (s : EventStream) (id : Nat) (sub : Subscription)
    (h : s.subscription? id = some sub) : sub.id = id := by
  have hp := List.find?_some h
  exact eq_of_beq hp

theorem find?_map_of_id (subs : List Subscription) (f : Subscription → Subscription) (id : Nat)
    (hf : ∀ sub, (f sub).id = sub.id) :
    (subs.map f).find? (·.id == id) = (subs.find? (·.id == id)).map f := by
  rw [List.find?_map]
  have hid : ((fun sub : Subscription => sub.id == id) ∘ f) = fun sub => sub.id == id := by
    funext sub
    simp only [Function.comp_apply, hf]
  rw [hid]

theorem offer_id (sub : Subscription) (capacity : Nat) (e : Event) :
    (sub.offer capacity e).id = sub.id := by
  unfold Subscription.offer
  split <;> rfl

theorem subscription?_update (s : EventStream) (j id : Nat) (f : Subscription → Subscription)
    (hf : ∀ sub, (f sub).id = sub.id) :
    (s.update j f).subscription? id =
      (s.subscription? id).map fun sub => if id = j then f sub else sub := by
  have hid : ∀ sub : Subscription, (if sub.id = j then f sub else sub).id = sub.id := by
    intro sub
    split
    · exact hf sub
    · rfl
  unfold subscription? update
  rw [find?_map_of_id s.subscriptions _ id hid]
  cases hsub : s.subscriptions.find? (·.id == id) with
  | none => rfl
  | some sub =>
    have hsubid : sub.id = id := id_of_subscription? s id sub hsub
    simp only [Option.map_some, hsubid]

theorem subscription?_unsubscribe (s : EventStream) (j id : Nat) :
    (s.unsubscribe j).subscription? id =
      (s.subscription? id).map fun sub => if id = j then sub.deregister else sub :=
  subscription?_update s j id .deregister fun _ => rfl

theorem stamp_fst (s : EventStream) (e : Event) :
    (s.stamp e).1 = { s with sequence := if e.id.isEmpty then s.sequence + 1 else s.sequence } := by
  unfold stamp
  split <;> rfl

/-- What a publish makes of a stream that is not removed. -/
theorem publish_fst (s : EventStream) (now : Nat) (e : Event) (hs : s.removed = false) :
    (s.publish now e).1 =
      { s with
        sequence := if e.id.isEmpty then s.sequence + 1 else s.sequence
        replay := if s.settings.autoReplay then s.replay.append now (s.stamp e).2 else s.replay
        subscriptions :=
          s.subscriptions.map (·.offer s.settings.queueCapacity (s.stamp e).2) } := by
  simp only [publish, hs, Bool.false_eq_true, if_false, stamp_fst]

theorem publish_removed (s : EventStream) (now : Nat) (e : Event) (hs : s.removed = true) :
    s.publish now e = (s, false) := by
  simp only [publish, hs, if_true]

theorem subscription?_publish (s : EventStream) (now id : Nat) (e : Event)
    (hs : s.removed = false) :
    (s.publish now e).1.subscription? id =
      (s.subscription? id).map (·.offer s.settings.queueCapacity (s.stamp e).2) := by
  rw [publish_fst s now e hs]
  exact find?_map_of_id _ _ _ fun sub => offer_id sub _ _

/-- A subscribe registers the next id, or it fails and leaves the subscribers alone. -/
theorem subscribe_cases (s : EventStream) (now : Nat) (lastSeen : Bytes) :
    (s.removed = false ∧
      s.subscribe now lastSeen =
        ({ s with nextSubscriber := s.nextSubscriber + 1
                  subscriptions := s.subscriptions ++ [{ id := s.nextSubscriber }] },
          .ok (s.nextSubscriber,
            if s.settings.autoReplay then s.replay.snapshot now lastSeen else []))) ∨
      ∃ fault next, s.nextSubscriber ≤ next ∧ (s.removed = false → fault ≠ .streamNotFound) ∧
        s.subscribe now lastSeen = ({ s with nextSubscriber := next }, .error fault) := by
  unfold subscribe
  by_cases hremoved : s.removed = true
  · rw [if_pos hremoved]
    refine Or.inr ⟨.streamNotFound, s.nextSubscriber, Nat.le_refl _, ?_, rfl⟩
    intro hkept
    cases hremoved.symm.trans hkept
  · rw [if_neg hremoved]
    by_cases hnone : s.settings.queueCapacity = 0
    · simp only [if_pos hnone]
      exact Or.inr ⟨.noRoom, s.nextSubscriber + 1, Nat.le_succ _, fun _ => nofun, rfl⟩
    · by_cases hmuch : maxQueueCapacity < s.settings.queueCapacity
      · simp only [if_neg hnone, if_pos hmuch]
        exact Or.inr ⟨.tooMuchRoom, s.nextSubscriber + 1, Nat.le_succ _, fun _ => nofun, rfl⟩
      · refine Or.inl ⟨Bool.eq_false_iff.mpr hremoved, ?_⟩
        simp only [if_neg hnone, if_neg hmuch]

/-- A subscribe that succeeds hands out the next id. -/
theorem subscribe_ok (s : EventStream) (now : Nat) (lastSeen : Bytes) (id : Nat)
    (replay : List Stored) (hok : (s.subscribe now lastSeen).2 = .ok (id, replay)) :
    s.removed = false ∧ id = s.nextSubscriber ∧
      id < (s.perform now (.subscribe lastSeen)).nextSubscriber ∧
      replay = if s.settings.autoReplay then s.replay.snapshot now lastSeen else [] := by
  rcases subscribe_cases s now lastSeen with ⟨hremoved, hresult⟩ | ⟨fault, next, _, _, hfault⟩
  · simp only [hresult, Except.ok.injEq, Prod.mk.injEq] at hok
    simp only [perform, hresult]
    exact ⟨hremoved, hok.1.symm, by omega, hok.2.symm⟩
  · simp only [hfault, reduceCtorEq] at hok

/-- A queue of any allowed size can be made for a stream that is not removed. -/
theorem exists_subscribe_ok (s : EventStream) (now : Nat) (lastSeen : Bytes)
    (hremoved : s.removed = false) (hroom : 0 < s.settings.queueCapacity)
    (hmost : s.settings.queueCapacity ≤ maxQueueCapacity) :
    ∃ answer, (s.subscribe now lastSeen).2 = .ok answer := by
  have hsome : s.settings.queueCapacity ≠ 0 := Nat.pos_iff_ne_zero.mp hroom
  have hmuch : ¬maxQueueCapacity < s.settings.queueCapacity := Nat.not_lt.mpr hmost
  simp only [subscribe, hremoved, Bool.false_eq_true, if_false, if_neg hsome, if_neg hmuch]
  exact ⟨_, rfl⟩

theorem subscription?_append (s : EventStream) (next id : Nat) :
    ({ s with nextSubscriber := next
              subscriptions := s.subscriptions ++ [{ id := s.nextSubscriber }] }
        : EventStream).subscription? id =
      (s.subscription? id).or (if id = s.nextSubscriber then some { id } else none) := by
  unfold subscription?
  rw [List.find?_append]
  congr 1
  by_cases hid : id = s.nextSubscriber
  · subst hid
    simp
  · have hne : (s.nextSubscriber == id) = false := beq_eq_false_iff_ne.mpr (Ne.symm hid)
    simp [List.find?, hne, hid]

theorem subscription?_receive (s : EventStream) (j id : Nat) :
    (s.receive j).1.subscription? id =
      (s.subscription? id).map fun sub =>
        if id = j then { sub with queue := sub.queue.tail } else sub := by
  have hkeep : ∀ o : Option Subscription, (∀ sub ∈ o, id = j → sub.queue = []) →
      o = o.map fun sub => if id = j then { sub with queue := sub.queue.tail } else sub := by
    intro o ho
    cases o with
    | none => rfl
    | some sub =>
      by_cases hid : id = j
      · have hqueue := ho sub rfl hid
        obtain ⟨subId, queue, registered⟩ := sub
        obtain rfl : queue = [] := hqueue
        simp
      · simp [hid]
  unfold receive
  cases hj : s.subscription? j with
  | none =>
    apply hkeep
    rintro sub hsub rfl
    rw [hj] at hsub
    cases hsub
  | some sub =>
    cases hqueue : sub.queue with
    | nil =>
      simp only [hqueue]
      apply hkeep
      rintro sub' hsub rfl
      rw [hj] at hsub
      cases hsub
      exact hqueue
    | cons e rest =>
      simp only [hqueue]
      rw [subscription?_update s j id (fun sub => { sub with queue := rest }) fun _ => rfl]
      cases hid : s.subscription? id with
      | none => rfl
      | some old =>
        by_cases heq : id = j
        · subst heq
          rw [hj] at hid
          cases hid
          simp [hqueue]
        · simp [heq]

/-- A receive hands out the head of the queue. -/
theorem receive_event? (s : EventStream) (id : Nat) :
    (s.receive id).2.event? = (s.subscription? id).bind (·.queue.head?) := by
  unfold receive
  cases hsub : s.subscription? id with
  | none => rfl
  | some sub =>
    cases hqueue : sub.queue with
    | nil =>
      simp only [hqueue, Option.bind_some, List.head?_nil]
      split <;> rfl
    | cons e rest => simp only [hqueue, Option.bind_some, List.head?_cons, Received.event?]

theorem subscription?_drop (s : EventStream) (j id : Nat) :
    (s.drop j).subscription? id = if id = j then none else s.subscription? id := by
  unfold drop subscription?
  rw [List.find?_filter]
  by_cases hid : id = j
  · subst hid
    rw [if_pos rfl, List.find?_eq_none]
    intro sub _
    simp
  · rw [if_neg hid]
    congr 1
    funext sub
    by_cases hsub : sub.id = id
    · simp [hsub, hid]
    · simp [hsub]

theorem subscription?_remove (s : EventStream) (id : Nat) :
    s.remove.subscription? id = (s.subscription? id).map (·.deregister) :=
  find?_map_of_id _ _ _ fun _ => rfl

theorem subscription?_closeIfIdle (s : EventStream) (id : Nat) :
    s.closeIfIdle.1.subscription? id = s.subscription? id := by
  unfold closeIfIdle
  split <;> rfl

def becomes (s : EventStream) (id : Nat) (op : Op) (sub : Subscription) : Option Subscription :=
  match op with
  | .publish e =>
    some (if s.removed then sub else sub.offer s.settings.queueCapacity (s.stamp e).2)
  | .unsubscribe j => some (if id = j then sub.deregister else sub)
  | .receive j => some (if id = j then { sub with queue := sub.queue.tail } else sub)
  | .drop j => if id = j then none else some sub
  | .remove => some sub.deregister
  | .subscribe _ | .advance _ | .closeIfIdle => some sub

def newcomer (s : EventStream) (now id : Nat) : Op → Option Subscription
  | .subscribe lastSeen =>
    match (s.subscribe now lastSeen).2 with
    | .ok (new, _) => if id = new then some { id } else none
    | .error _ => none
  | _ => none

/-- A subscriber after a step. -/
theorem subscription?_perform (s : EventStream) (now id : Nat) (op : Op) :
    (s.perform now op).subscription? id =
      ((s.subscription? id).bind (s.becomes id op)).or (s.newcomer now id op) := by
  cases op with
  | publish e =>
    cases hremoved : s.removed with
    | true =>
      rw [perform, publish_removed s now e hremoved]
      cases s.subscription? id <;> simp [becomes, newcomer, hremoved]
    | false =>
      rw [perform, subscription?_publish s now id e hremoved]
      cases s.subscription? id <;> simp [becomes, newcomer, hremoved]
  | subscribe lastSeen =>
    rcases subscribe_cases s now lastSeen with ⟨_, hok⟩ | ⟨fault, next, _, _, hfault⟩
    · rw [perform, hok, subscription?_append]
      cases s.subscription? id <;> simp [becomes, newcomer, hok]
    · rw [perform, hfault]
      change s.subscription? id = _
      cases s.subscription? id <;> simp [becomes, newcomer, hfault]
  | unsubscribe j =>
    rw [perform, subscription?_unsubscribe]
    cases s.subscription? id <;> rfl
  | receive j =>
    rw [perform, subscription?_receive]
    cases s.subscription? id <;> rfl
  | drop j =>
    rw [perform, subscription?_drop]
    cases s.subscription? id <;> simp [becomes, newcomer]
  | advance d =>
    cases hsub : s.subscription? id <;> simp [becomes, newcomer, perform, hsub]
  | remove =>
    rw [perform, subscription?_remove]
    cases s.subscription? id <;> rfl
  | closeIfIdle =>
    rw [perform, subscription?_closeIfIdle]
    cases s.subscription? id <;> rfl

theorem subscription?_perform_of_found (s : EventStream) (now id : Nat) (op : Op)
    (sub : Subscription) (h : s.subscription? id = some sub) :
    (s.perform now op).subscription? id = s.becomes id op sub := by
  rw [subscription?_perform, h, Option.bind_some]
  cases op with
  | drop j => exact Option.or_none
  | _ => rfl

theorem subscription?_perform_of_not_found (s : EventStream) (now id : Nat) (op : Op)
    (h : s.subscription? id = none) :
    (s.perform now op).subscription? id = s.newcomer now id op := by
  rw [subscription?_perform, h, Option.bind_none, Option.none_or]

def Op.isQuiet : Op → Bool
  | .publish _ | .remove | .closeIfIdle => false
  | .subscribe _ | .unsubscribe _ | .receive _ | .drop _ | .advance _ => true

theorem perform_of_isQuiet (s : EventStream) (now : Nat) (op : Op) (hop : op.isQuiet = true) :
    s.perform now op =
      { s with nextSubscriber := (s.perform now op).nextSubscriber
               subscriptions := (s.perform now op).subscriptions } := by
  cases op with
  | subscribe lastSeen =>
    rcases subscribe_cases s now lastSeen with ⟨_, hok⟩ | ⟨fault, next, _, _, hfault⟩
    · simp only [perform, hok]
    · simp only [perform, hfault]
  | receive id =>
    simp only [perform, receive]
    split
    · rfl
    · split <;> rfl
  | unsubscribe | drop | advance => rfl
  | publish | remove | closeIfIdle => exact Bool.noConfusion hop

/-- Ids are never given back. -/
theorem nextSubscriber_le_perform (s : EventStream) (now : Nat) (op : Op) :
    s.nextSubscriber ≤ (s.perform now op).nextSubscriber := by
  cases op with
  | publish e =>
    cases hremoved : s.removed with
    | true => simp only [perform, publish_removed s now e hremoved, Nat.le_refl]
    | false => simp only [perform, publish_fst s now e hremoved, Nat.le_refl]
  | subscribe lastSeen =>
    rcases subscribe_cases s now lastSeen with ⟨_, hok⟩ | ⟨fault, next, hnext, _, hfault⟩
    · simp only [perform, hok]
      exact Nat.le_succ _
    · simp only [perform, hfault]
      exact hnext
  | receive id =>
    simp only [perform, receive]
    split
    · exact Nat.le_refl _
    · split <;> exact Nat.le_refl _
  | closeIfIdle =>
    simp only [perform, closeIfIdle]
    split <;> exact Nat.le_refl _
  | unsubscribe | drop | advance | remove => exact Nat.le_refl _

/-- No step changes the name or the settings of a stream, or how it came into being. -/
theorem perform_frame (s : EventStream) (now : Nat) (op : Op) :
    (s.perform now op).name = s.name ∧ (s.perform now op).settings = s.settings ∧
      (s.perform now op).auto = s.auto := by
  cases hquiet : op.isQuiet with
  | true =>
    rw [perform_of_isQuiet s now op hquiet]
    exact ⟨rfl, rfl, rfl⟩
  | false =>
    cases op with
    | publish e =>
      cases hremoved : s.removed with
      | true => simp only [perform, publish_removed s now e hremoved, and_self]
      | false => simp only [perform, publish_fst s now e hremoved, and_self]
    | remove => exact ⟨rfl, rfl, rfl⟩
    | closeIfIdle =>
      simp only [perform, closeIfIdle]
      split <;> exact ⟨rfl, rfl, rfl⟩
    | subscribe | unsubscribe | receive | drop | advance => exact Bool.noConfusion hquiet

theorem perform_identity (s : EventStream) (now : Nat) (op : Op) :
    (s.perform now op).name = s.name ∧ (s.perform now op).settings = s.settings :=
  ⟨(s.perform_frame now op).1, (s.perform_frame now op).2.1⟩

theorem perform_auto (s : EventStream) (now : Nat) (op : Op) : (s.perform now op).auto = s.auto :=
  (s.perform_frame now op).2.2

def Op.isFinal : Op → Bool
  | .remove | .closeIfIdle => true
  | .publish _ | .subscribe _ | .unsubscribe _ | .receive _ | .drop _ | .advance _ => false

theorem perform_removed (s : EventStream) (now : Nat) (op : Op) (hop : op.isFinal = false) :
    (s.perform now op).removed = s.removed := by
  cases hquiet : op.isQuiet with
  | true => rw [perform_of_isQuiet s now op hquiet]
  | false =>
    cases op with
    | publish e =>
      cases hremoved : s.removed with
      | true => simp only [perform, publish_removed s now e hremoved, hremoved]
      | false => simp only [perform, publish_fst s now e hremoved, hremoved]
    | remove | closeIfIdle => exact Bool.noConfusion hop
    | subscribe | unsubscribe | receive | drop | advance => exact Bool.noConfusion hquiet

/-- A removed stream stays removed. -/
theorem perform_removed_of_removed (s : EventStream) (now : Nat) (op : Op)
    (hremoved : s.removed = true) : (s.perform now op).removed = true := by
  cases hfinal : op.isFinal with
  | false => exact (s.perform_removed now op hfinal).trans hremoved
  | true =>
    cases op with
    | remove => rfl
    | closeIfIdle =>
      simp only [perform, closeIfIdle]
      split
      · rfl
      · exact hremoved
    | publish | subscribe | unsubscribe | receive | drop | advance => exact Bool.noConfusion hfinal

end EventBroker.EventStream
