import EventBroker.Proofs.EventStream.Lookup

/-!
One subscriber through one step. Whatever the step is, a subscriber takes an event, loses
it for want of room, gives out the head of its queue, leaves, or notices nothing; and a
subscriber that was not there before has just registered with an empty queue. What it
gave out and still holds is what it held and took.
-/
namespace EventBroker.EventStream

def IdsBelow (s : EventStream) : Prop := ∀ id, s.nextSubscriber ≤ id → s.subscription? id = none

/-- What becomes of a subscriber that notices a step, with the events that it takes into
its queue and gives out of it. -/
inductive Heeds (capacity : Nat) (old : Subscription) :
    Option Notice → Option Event → Option Event → Subscription → Prop
  | quiet : Heeds capacity old none none none old
  | taken (e : Event) (hregistered : old.registered = true)
      (hroom : old.queue.length < capacity) :
      Heeds capacity old (some (.publish e)) (some e) none { old with queue := old.queue ++ [e] }
  | lost (e : Event) (hlost : ¬(old.registered = true ∧ old.queue.length < capacity)) :
      Heeds capacity old (some (.publish e)) none none old
  | received :
      Heeds capacity old (some .receive) none old.queue.head?
        { old with queue := old.queue.tail }
  | left : Heeds capacity old (some .leave) none none old.deregister

theorem head?_append_tail (events : List Event) : events.head?.toList ++ events.tail = events := by
  cases events <;> rfl

/-- Nothing is lost between the queue before a step, the queue after it, and the outside. -/
theorem Heeds.balance {capacity : Nat} {old sub : Subscription} {notice : Option Notice}
    {accepted received : Option Event} (h : Heeds capacity old notice accepted received sub) :
    received.toList ++ sub.queue = old.queue ++ accepted.toList := by
  cases h with
  | quiet => exact (List.append_nil _).symm
  | taken e hregistered hroom => rfl
  | lost e hlost => exact (List.append_nil _).symm
  | received => exact (head?_append_tail old.queue).trans (List.append_nil _).symm
  | left => exact (List.append_nil _).symm

structure Mailbox where
  queue : List Event := []
  registered : Bool := true
  received : List Event := []
  deriving Repr, DecidableEq

def Mailbox.heed (capacity : Nat) (b : Mailbox) : Notice → Mailbox
  | .publish e =>
    if b.registered && b.queue.length < capacity then { b with queue := b.queue ++ [e] } else b
  | .receive => { b with queue := b.queue.tail, received := b.received ++ b.queue.head?.toList }
  | .leave => { b with registered := false }

/-- What becomes of a subscriber is decided by its notices. -/
theorem Heeds.mailbox {capacity : Nat} {old sub : Subscription} {notice : Option Notice}
    {accepted received : Option Event} (h : Heeds capacity old notice accepted received sub)
    (before : List Event) :
    notice.toList.foldl (Mailbox.heed capacity) ⟨old.queue, old.registered, before⟩ =
      ⟨sub.queue, sub.registered, before ++ received.toList⟩ := by
  cases h with
  | quiet => simp only [Option.toList_none, List.foldl_nil, List.append_nil]
  | taken e hregistered hroom =>
    simp only [Option.toList_some, List.foldl_cons, List.foldl_nil, Mailbox.heed, hregistered,
      hroom, decide_true, Bool.and_self, if_true, Option.toList_none, List.append_nil]
  | lost e hlost =>
    have hfull : (old.registered && decide (old.queue.length < capacity)) = false := by
      rw [Bool.eq_false_iff, ne_eq, Bool.and_eq_true, decide_eq_true_eq]
      exact hlost
    simp only [Option.toList_some, List.foldl_cons, List.foldl_nil, Mailbox.heed, hfull,
      Bool.false_eq_true, if_false, Option.toList_none, List.append_nil]
  | received =>
    simp only [Option.toList_some, List.foldl_cons, List.foldl_nil, Mailbox.heed]
  | left =>
    simp only [Option.toList_some, List.foldl_cons, List.foldl_nil, Mailbox.heed,
      Subscription.deregister, Option.toList_none, List.append_nil]

namespace Moment

theorem accepted_of_published_eq_none (m : Moment) (id : Nat) (h : m.published = none) :
    m.accepted id = none := by
  unfold accepted
  rw [h]
  split <;> rfl

theorem accepted_of_not_found (m : Moment) (id : Nat) (h : m.stream.subscription? id = none) :
    m.accepted id = none := by
  simp only [accepted, isRegistered, h, Option.any_none, Bool.false_and, Bool.false_eq_true,
    if_false]

theorem received_of_not_found (m : Moment) (id : Nat) (h : m.stream.subscription? id = none) :
    m.received id = none := by
  unfold received
  split
  · rw [receive_event?, h]
    split <;> rfl
  · rfl

/-- Only a subscriber that registers comes from nowhere. -/
theorem registers (m : Moment) (id : Nat) (hnone : m.stream.subscription? id = none) :
    m.after.subscription? id = none ∨
      id = m.stream.nextSubscriber ∧ id < m.after.nextSubscriber ∧
        m.after.subscription? id = some { id } := by
  obtain ⟨s, now, op⟩ := m
  have hafter := s.subscription?_perform_of_not_found now id op hnone
  cases op with
  | subscribe lastSeen =>
    cases hanswer : (s.subscribe now lastSeen).2 with
    | error fault =>
      rw [newcomer, hanswer] at hafter
      exact Or.inl hafter
    | ok answer =>
      obtain ⟨_, hid, hlt, _⟩ := s.subscribe_ok now lastSeen answer.1 answer.2 hanswer
      rw [newcomer, hanswer] at hafter
      simp only at hafter
      split at hafter
      · next hnew =>
        rw [hnew] at hafter ⊢
        exact Or.inr ⟨hid, hlt, hafter⟩
      · exact Or.inl hafter
  | _ => exact Or.inl hafter

theorem heeds_publish (m : Moment) (id : Nat) (e : Event) (old sub : Subscription)
    (hop : m.op = .publish e) (hold : m.stream.subscription? id = some old)
    (hsub : m.stream.becomes id m.op old = some sub) :
    Heeds m.stream.settings.queueCapacity old (m.notice id) (m.accepted id) (m.received id)
      sub := by
  obtain ⟨s, now, op⟩ := m
  obtain rfl : op = .publish e := hop
  cases hremoved : s.removed with
  | true =>
    simp only [becomes, hremoved, if_true, Option.some.injEq] at hsub
    subst hsub
    simp only [notice, accepted, published, hremoved, if_true, Option.map_none, received, ite_self]
    exact .quiet
  | false =>
    simp only [becomes, hremoved, Bool.false_eq_true, if_false, Option.some.injEq,
      Subscription.offer] at hsub
    subst hsub
    simp only [notice, accepted, published, hremoved, Bool.false_eq_true, if_false,
      Option.map_some, received, isRegistered, hasRoom, hold, Option.any_some]
    split
    · next htaken =>
      rw [Bool.and_eq_true, decide_eq_true_eq] at htaken
      exact .taken _ htaken.1 htaken.2
    · next hlost =>
      rw [Bool.and_eq_true, decide_eq_true_eq] at hlost
      exact .lost _ hlost

/-- A subscriber that is there before a step and after it. -/
theorem heeds (m : Moment) (id : Nat) (old sub : Subscription)
    (hold : m.stream.subscription? id = some old) (hsub : m.after.subscription? id = some sub) :
    Heeds m.stream.settings.queueCapacity old (m.notice id) (m.accepted id) (m.received id)
      sub := by
  obtain ⟨s, now, op⟩ := m
  have hbecomes : s.becomes id op old = some sub :=
    (s.subscription?_perform_of_found now id op old hold).symm.trans hsub
  -- All but a publish are accepted by nobody.
  have hquiet (hpublished : ({ stream := s, now, op } : Moment).published = none) :
      ({ stream := s, now, op } : Moment).accepted id = none :=
    accepted_of_published_eq_none _ id hpublished
  cases op with
  | publish e => exact heeds_publish _ id e old sub rfl hold hbecomes
  | subscribe lastSeen =>
    rw [hquiet rfl]
    cases hbecomes
    exact .quiet
  | unsubscribe j =>
    rw [hquiet rfl]
    cases hbecomes
    by_cases hid : id = j
    · simp only [notice, received, hid, if_true]
      exact .left
    · simp only [notice, received, hid, Ne.symm hid, if_false]
      exact .quiet
  | receive j =>
    rw [hquiet rfl]
    cases hbecomes
    by_cases hid : id = j
    · subst hid
      simp only [notice, received, receive_event?, hold, Option.bind_some, if_true]
      exact .received
    · simp only [notice, received, hid, Ne.symm hid, if_false]
      exact .quiet
  | drop j =>
    rw [hquiet rfl]
    simp only [becomes] at hbecomes
    split at hbecomes
    · cases hbecomes
    · cases hbecomes
      exact .quiet
  | advance d =>
    rw [hquiet rfl]
    cases hbecomes
    exact .quiet
  | remove =>
    rw [hquiet rfl]
    cases hbecomes
    exact .left
  | closeIfIdle =>
    rw [hquiet rfl]
    cases hbecomes
    exact .quiet

/-- A subscriber that is not there any more was dropped, which it does not notice. -/
theorem departs (m : Moment) (id : Nat) (old : Subscription)
    (hold : m.stream.subscription? id = some old) (hgone : m.after.subscription? id = none) :
    m.notice id = none ∧ m.accepted id = none ∧ m.received id = none := by
  obtain ⟨s, now, op⟩ := m
  have hbecomes : s.becomes id op old = none :=
    (s.subscription?_perform_of_found now id op old hold).symm.trans hgone
  cases op with
  | drop j => exact ⟨rfl, accepted_of_published_eq_none _ id rfl, rfl⟩
  | _ => cases hbecomes

end Moment

theorem IdsBelow.perform {s : EventStream} (hs : s.IdsBelow) (now : Nat) (op : Op) :
    (s.perform now op).IdsBelow := by
  intro id hid
  have hnext := nextSubscriber_le_perform s now op
  have hnone := hs id (Nat.le_trans hnext hid)
  rcases Moment.registers ⟨s, now, op⟩ id hnone with hnone | ⟨_, hlt, _⟩
  · exact hnone
  · exact absurd hid (Nat.not_le_of_lt hlt)

/-- A new subscriber starts with an empty queue. -/
theorem IdsBelow.subscription?_subscribe {s : EventStream} (hs : s.IdsBelow) (now : Nat)
    (lastSeen : Bytes) (id : Nat) (replay : List Stored)
    (hok : (s.subscribe now lastSeen).2 = .ok (id, replay)) :
    (s.perform now (.subscribe lastSeen)).subscription? id = some { id } := by
  obtain ⟨_, hid, _⟩ := s.subscribe_ok now lastSeen id replay hok
  rw [s.subscription?_perform_of_not_found now id _ (hs id (Nat.le_of_eq hid.symm)), newcomer,
    hok]
  exact if_pos rfl

end EventBroker.EventStream
