import EventBroker.Proofs.EventStream.FanOut
import EventBroker.Proofs.EventStream.Registered

/-!
How registrations and streams end. An id is handed out once, so a subscriber that leaves, however
often it does, takes its own registration away and nothing else. A removed stream stays
removed and empty, and all that still changes in it are the queues of those who were there:
they are read to their ends, and only then found closed.
-/
namespace EventBroker.EventStream

def Op.leaver : Op → Option Nat
  | .unsubscribe id | .drop id => some id
  | .publish _ | .subscribe _ | .receive _ | .advance _ | .remove | .closeIfIdle => none

def registeredIds (s : EventStream) : List Nat :=
  (s.subscriptions.filter (·.registered)).map (·.id)

theorem subscriberCount_eq_length (s : EventStream) :
    s.subscriberCount = s.registeredIds.length := by
  rw [subscriberCount, registeredIds, List.countP_eq_length_filter, List.length_map]

theorem registeredIds_eq_nil (s : EventStream) (h : s.isIdle = true) : s.registeredIds = [] := by
  have hnone : s.subscriptions.filter (·.registered) = [] := by
    rw [List.filter_eq_nil_iff]
    intro sub hsub
    simpa using List.all_eq_true.mp h sub hsub
  rw [registeredIds, hnone, List.map_nil]

theorem registeredIds_unsubscribe (s : EventStream) (j : Nat) :
    (s.unsubscribe j).registeredIds = s.registeredIds.filter (· != j) := by
  unfold registeredIds unsubscribe update
  simp only
  induction s.subscriptions with
  | nil => rfl
  | cons sub subs ih =>
    have hleft : sub.deregister.registered = false := rfl
    rw [List.map_cons]
    by_cases hid : sub.id = j
    · cases hregistered : sub.registered <;> simp [hid, hregistered, hleft, ih]
    · cases hregistered : sub.registered <;> simp [hid, hregistered, ih]

theorem registeredIds_drop (s : EventStream) (j : Nat) :
    (s.drop j).registeredIds = s.registeredIds.filter (· != j) := by
  unfold registeredIds drop
  rw [List.filter_map, List.filter_filter, List.filter_filter]
  congr 2
  funext sub
  exact Bool.and_comm _ _

/-- A subscriber that leaves takes its own registration away and nothing else. -/
theorem perform_of_leaver (s : EventStream) (now : Nat) (op : Op) (j : Nat)
    (hop : op.leaver = some j) :
    s.perform now op = { s with subscriptions := (s.perform now op).subscriptions } ∧
      (s.perform now op).registeredIds = s.registeredIds.filter (· != j) ∧
      ∀ id, id ≠ j → (s.perform now op).subscription? id = s.subscription? id := by
  cases op with
  | unsubscribe id =>
    obtain rfl := Option.some.inj hop
    refine ⟨rfl, s.registeredIds_unsubscribe id, fun other hother => ?_⟩
    rw [perform, subscription?_unsubscribe]
    simp only [if_neg hother, Option.map_id']
  | drop id =>
    obtain rfl := Option.some.inj hop
    refine ⟨rfl, s.registeredIds_drop id, fun other hother => ?_⟩
    rw [perform, subscription?_drop, if_neg hother]
  | publish | subscribe | receive | advance | remove | closeIfIdle => cases hop

structure Gone (s : EventStream) : Prop where
  removed : s.removed = true
  entries : s.replay.entries = []
  idle : s.isIdle = true

theorem gone_remove (s : EventStream) : s.remove.Gone := by
  refine ⟨rfl, rfl, List.all_eq_true.mpr fun sub hsub => ?_⟩
  obtain ⟨old, _, rfl⟩ := List.mem_map.mp hsub
  rfl

theorem gone_closeIfIdle (s : EventStream) (h : s.isIdle = true) : s.closeIfIdle.1.Gone := by
  rw [closeIfIdle, if_pos h]
  exact ⟨rfl, rfl, h⟩

theorem Gone.clear {s : EventStream} (hs : s.Gone) : s.replay.clear = s.replay := by
  rw [Replay.clear, ← hs.entries]

theorem Gone.publish {s : EventStream} (hs : s.Gone) (now : Nat) (e : Event) :
    s.publish now e = (s, false) :=
  publish_removed s now e hs.removed

theorem Gone.subscribe {s : EventStream} (hs : s.Gone) (now : Nat) (lastSeen : Bytes) :
    s.subscribe now lastSeen = (s, .error .streamNotFound) := by
  rw [EventStream.subscribe, if_pos hs.removed]

theorem isIdle_update (s : EventStream) (j : Nat) (f : Subscription → Subscription)
    (h : s.isIdle = true) (hf : ∀ sub, sub.registered = false → (f sub).registered = false) :
    (s.update j f).isIdle = true := by
  refine List.all_eq_true.mpr fun sub hsub => ?_
  obtain ⟨old, hold, rfl⟩ := List.mem_map.mp hsub
  have hleft := List.all_eq_true.mp h old hold
  simp only [Bool.not_eq_true'] at hleft ⊢
  split
  · exact hf old hleft
  · exact hleft

/-- Of a stream that is gone, a step changes nothing but a queue. -/
theorem Gone.perform {s : EventStream} (hs : s.Gone) (now : Nat) (op : Op) :
    (s.perform now op).Gone ∧
      s.perform now op = { s with subscriptions := (s.perform now op).subscriptions } := by
  cases op with
  | publish e =>
    rw [EventStream.perform, hs.publish now e]
    exact ⟨hs, rfl⟩
  | subscribe lastSeen =>
    rw [EventStream.perform, hs.subscribe now lastSeen]
    exact ⟨hs, rfl⟩
  | unsubscribe id =>
    exact ⟨⟨hs.removed, hs.entries, s.isIdle_update id _ hs.idle fun _ _ => rfl⟩, rfl⟩
  | receive id =>
    rw [EventStream.perform, receive]
    split
    · exact ⟨hs, rfl⟩
    · split
      · exact ⟨⟨hs.removed, hs.entries, s.isIdle_update id _ hs.idle fun _ hsub => hsub⟩, rfl⟩
      · exact ⟨hs, rfl⟩
  | drop id =>
    refine ⟨⟨hs.removed, hs.entries, List.all_eq_true.mpr fun sub hsub => ?_⟩, rfl⟩
    exact List.all_eq_true.mp hs.idle sub (List.mem_of_mem_filter hsub)
  | advance d => exact ⟨hs, rfl⟩
  | remove =>
    refine ⟨s.gone_remove, ?_⟩
    rw [EventStream.perform, EventStream.remove, hs.clear, hs.removed]
  | closeIfIdle =>
    refine ⟨s.gone_closeIfIdle hs.idle, ?_⟩
    rw [EventStream.perform, closeIfIdle, if_pos hs.idle, hs.clear, hs.removed]

/-- A subscriber that is not registered any more only loses what it reads. -/
theorem subscription?_of_deregistered (s : EventStream) (now id : Nat) (op : Op)
    (sub : Subscription) (hsub : s.subscription? id = some sub) (hleft : sub.registered = false)
    (hop : op ≠ .drop id) :
    (s.perform now op).subscription? id =
      some (if op = .receive id then { sub with queue := sub.queue.tail } else sub) := by
  have hsame : sub.deregister = sub := by rw [Subscription.deregister, ← hleft]
  rw [s.subscription?_perform_of_found now id op sub hsub]
  cases op with
  | publish e =>
    have hoffer : ∀ e, sub.offer s.settings.queueCapacity e = sub := by
      intro e
      rw [Subscription.offer, hleft, Bool.false_and, if_neg Bool.false_ne_true]
    simp only [becomes, hoffer, ite_self, reduceCtorEq, if_false]
  | unsubscribe j => simp only [becomes, hsame, ite_self, reduceCtorEq, if_false]
  | receive j =>
    by_cases hid : id = j
    · simp only [becomes, hid, if_true]
    · have hother : Op.receive j ≠ Op.receive id := fun h => hid (Op.receive.inj h).symm
      simp only [becomes, if_neg hid, if_neg hother]
  | drop j =>
    have hid : id ≠ j := fun h => hop (h ▸ rfl)
    simp only [becomes, if_neg hid, reduceCtorEq, if_false]
  | remove => simp only [becomes, hsame, reduceCtorEq, if_false]
  | subscribe | advance | closeIfIdle => rfl

/-- What `n` readings of a queue answer to which nothing is added any more. -/
def readOut (queue : List Event) (n : Nat) : List Received :=
  (List.range n).map fun k => (queue[k]?).elim .closed .event

theorem readOut_succ (queue : List Event) (n : Nat) :
    readOut queue (n + 1) = queue.head?.elim .closed .event :: readOut queue.tail n := by
  unfold readOut
  rw [List.range_succ_eq_map, List.map_cons, List.map_map, List.head?_eq_getElem?]
  congr 2
  funext k
  rw [Function.comp_apply, List.getElem?_tail]

theorem receive_of_deregistered (s : EventStream) (id : Nat) (sub : Subscription)
    (hsub : s.subscription? id = some sub) (hleft : sub.registered = false) :
    (s.receive id).2 = sub.queue.head?.elim .closed .event := by
  unfold receive
  rw [hsub]
  cases hqueue : sub.queue with
  | nil => simp [hqueue, hleft]
  | cons e rest => simp [hqueue]

namespace Moment

def handed (m : Moment) : Option Nat :=
  match m.op with
  | .subscribe lastSeen =>
    match (m.stream.subscribe m.now lastSeen).2 with
    | .ok (id, _) => some id
    | .error _ => none
  | _ => none

def answer (id : Nat) (m : Moment) : Option Received :=
  match m.op with
  | .receive j => if j = id then some (m.stream.receive id).2 else none
  | _ => none

/-- An id that is handed out is the next one, which then is another. -/
theorem handed_bounds (m : Moment) (id : Nat) (h : m.handed = some id) :
    m.stream.nextSubscriber ≤ id ∧ id < m.after.nextSubscriber := by
  obtain ⟨s, now, op⟩ := m
  cases op with
  | subscribe lastSeen =>
    simp only [handed] at h
    split at h
    · next new replay hok =>
      obtain rfl := Option.some.inj h
      obtain ⟨_, hnew, hlt, _⟩ := s.subscribe_ok now lastSeen new replay hok
      exact ⟨Nat.le_of_eq hnew.symm, hlt⟩
    · cases h
  | publish | unsubscribe | receive | drop | advance | remove | closeIfIdle => cases h

end Moment

namespace History

def run (h : History) (ops : List Op) : History := ops.foldl step h

def handed (h : History) : List Nat := h.past.filterMap (·.handed)

def answers (h : History) (id : Nat) : List Received := h.past.filterMap (·.answer id)

theorem handed_step (h : History) (op : Op) :
    (h.step op).handed = h.handed ++ (h.moment op).handed.toList :=
  filterMap_concat _ h.past (h.moment op)

theorem answers_step (h : History) (op : Op) (id : Nat) :
    (h.step op).answers id = h.answers id ++ ((h.moment op).answer id).toList :=
  filterMap_concat _ h.past (h.moment op)

theorem run_cons (h : History) (op : Op) (ops : List Op) :
    h.run (op :: ops) = (h.step op).run ops := rfl

variable {name : String} {settings : StreamSettings} {auto : Bool} {h : History}

theorem Reachable.idsDistinct (hr : h.Reachable name settings auto) : h.stream.IdsDistinct := by
  induction hr with
  | start now => exact idsDistinct_new name settings auto
  | step hr op ih => exact ih.perform _ op

/-- The ids are handed out in rising order. -/
theorem Reachable.handed_rise (hr : h.Reachable name settings auto) :
    h.handed.Pairwise (· < ·) ∧ ∀ id ∈ h.handed, id < h.stream.nextSubscriber := by
  induction hr with
  | start now => exact ⟨List.Pairwise.nil, fun id hid => nomatch hid⟩
  | @step h _ op ih =>
    obtain ⟨hrise, hbelow⟩ := ih
    have hnext := nextSubscriber_le_perform h.stream h.now op
    rw [handed_step]
    cases hhanded : (h.moment op).handed with
    | none =>
      rw [Option.toList_none, List.append_nil]
      exact ⟨hrise, fun id hid => Nat.lt_of_lt_of_le (hbelow id hid) hnext⟩
    | some new =>
      obtain ⟨hleast, hmost⟩ := (h.moment op).handed_bounds new hhanded
      constructor
      · refine List.pairwise_append.mpr ⟨hrise, List.pairwise_singleton _ _, ?_⟩
        intro id hid last hlast
        rw [List.mem_singleton.mp hlast]
        exact Nat.lt_of_lt_of_le (hbelow id hid) hleast
      · intro id hid
        rcases List.mem_append.mp hid with hid | hid
        · exact Nat.lt_of_lt_of_le (hbelow id hid) hnext
        · rw [List.mem_singleton.mp hid]
          exact hmost

/-- A removed stream is empty. -/
theorem Reachable.gone (hr : h.Reachable name settings auto) (hremoved : h.stream.removed = true) :
    h.stream.Gone := by
  induction hr with
  | start now => cases hremoved
  | @step h _ op ih =>
    -- Either the stream was removed before, or this very step removes it.
    cases hbefore : h.stream.removed with
    | true => exact ((ih hbefore).perform h.now op).1
    | false =>
      cases hfinal : op.isFinal with
      | false =>
        have hkept := h.stream.perform_removed h.now op hfinal
        cases (hremoved.symm.trans hkept).trans hbefore
      | true =>
        cases op with
        | remove => exact h.stream.gone_remove
        | closeIfIdle =>
          cases hidle : h.stream.isIdle with
          | true => exact h.stream.gone_closeIfIdle hidle
          | false =>
            have hsame : (h.step .closeIfIdle).stream = h.stream := by
              show h.stream.closeIfIdle.1 = h.stream
              rw [closeIfIdle, hidle, if_neg Bool.false_ne_true]
            rw [hsame, hbefore] at hremoved
            cases hremoved
        | publish | subscribe | unsubscribe | receive | drop | advance =>
          exact Bool.noConfusion hfinal

/-- Of a stream that is gone, nothing but queues ever changes. -/
theorem gone_run (hgone : h.stream.Gone) (ops : List Op) :
    (h.run ops).stream.Gone ∧
      (h.run ops).stream = { h.stream with subscriptions := (h.run ops).stream.subscriptions } := by
  induction ops generalizing h with
  | nil => exact ⟨hgone, rfl⟩
  | cons op ops ih =>
    obtain ⟨hnext, hstep⟩ := hgone.perform h.now op
    obtain ⟨hlast, hrest⟩ := ih (h := h.step op) hnext
    have hstream : (h.step op).stream = h.stream.perform h.now op := rfl
    rw [run_cons]
    refine ⟨hlast, ?_⟩
    rw [hrest, hstream, hstep]

/-- Subscribers that leave take their own registrations away and nothing else. -/
theorem run_of_leavers (h : History) (ops : List Op)
    (hops : ∀ op ∈ ops, op.leaver.isSome = true) :
    (h.run ops).stream = { h.stream with subscriptions := (h.run ops).stream.subscriptions } ∧
      (h.run ops).stream.registeredIds =
        h.stream.registeredIds.filter (· ∉ ops.filterMap Op.leaver) ∧
      ∀ id ∉ ops.filterMap Op.leaver,
        (h.run ops).stream.subscription? id = h.stream.subscription? id := by
  induction ops generalizing h with
  | nil => simp [run]
  | cons op ops ih =>
    obtain ⟨j, hj⟩ := Option.isSome_iff_exists.mp (hops op List.mem_cons_self)
    obtain ⟨hstep, hregistered, hothers⟩ := h.stream.perform_of_leaver h.now op j hj
    obtain ⟨hrest, hlast, hkept⟩ := ih (h.step op) fun op hop => hops op (List.mem_cons_of_mem _ hop)
    have hstream : (h.step op).stream = h.stream.perform h.now op := rfl
    rw [run_cons, List.filterMap_cons_some hj]
    refine ⟨?_, ?_, fun id hid => ?_⟩
    · rw [hrest, hstream, hstep]
    · rw [hlast, hstream, hregistered, List.filter_filter]
      congr 1
      funext id
      by_cases hid : id = j
      · simp [hid]
      · simp [hid]
    · rw [List.mem_cons, not_or] at hid
      rw [hkept id hid.2, hstream, hothers id hid.1]

/-- What a subscriber left behind in its queue is read in order, and then the end. -/
theorem answers_of_deregistered (h : History) (id : Nat) (sub : Subscription) (ops : List Op)
    (hsub : h.stream.subscription? id = some sub) (hleft : sub.registered = false)
    (hops : Op.drop id ∉ ops) :
    (h.run ops).answers id = h.answers id ++ readOut sub.queue (ops.count (.receive id)) := by
  induction ops generalizing h sub with
  | nil => exact (List.append_nil _).symm
  | cons op ops ih =>
    rw [List.mem_cons, not_or] at hops
    have hnext := h.stream.subscription?_of_deregistered h.now id op sub hsub hleft
      (Ne.symm hops.1)
    rw [run_cons]
    by_cases hop : op = .receive id
    · subst hop
      have hanswer : (h.moment (.receive id)).answer id =
          some (sub.queue.head?.elim .closed .event) := by
        simp only [Moment.answer, moment, if_true, h.stream.receive_of_deregistered id sub hsub hleft]
      rw [if_pos rfl] at hnext
      rw [ih (h.step (.receive id)) _ hnext hleft hops.2, answers_step, hanswer,
        List.count_cons_self, readOut_succ, List.append_assoc]
      rfl
    · have hanswer : (h.moment op).answer id = none := by
        cases op with
        | receive j =>
          have hj : j ≠ id := fun hj => hop (hj ▸ rfl)
          simp only [Moment.answer, moment, if_neg hj]
        | publish | subscribe | unsubscribe | drop | advance | remove | closeIfIdle => rfl
      rw [if_neg hop] at hnext
      rw [ih (h.step op) sub hnext hleft hops.2, answers_step, hanswer, Option.toList_none,
        List.append_nil, List.count_cons_of_ne hop]

/-- In every run of a stream, ids are handed out once, and subscribers that leave in any order and
any number of times end their own registrations and change nothing else. Once it is removed,
by a removal or because it was idle, the stream stays so whatever is done: log and
registrations stay empty, events and subscribers are refused, and only queues change. Who was
removed with it or left it before still reads its queue in order and then is told the end. -/
theorem lifecycle_terminal (name : String) (settings : StreamSettings) (auto : Bool) (h : History)
    (hr : h.Reachable name settings auto) :
    h.handed.Nodup ∧ h.stream.registeredIds.Nodup ∧
    (∀ ops, (∀ op ∈ ops, op.leaver.isSome = true) →
      (h.run ops).stream = { h.stream with subscriptions := (h.run ops).stream.subscriptions } ∧
      (h.run ops).stream.registeredIds =
        h.stream.registeredIds.filter (· ∉ ops.filterMap Op.leaver) ∧
      ∀ id ∉ ops.filterMap Op.leaver,
        (h.run ops).stream.subscription? id = h.stream.subscription? id) ∧
    (h.step .remove).stream.removed = true ∧
    (h.stream.closeIfIdle.2 = true → (h.step .closeIfIdle).stream.removed = true) ∧
    (h.stream.removed = true → ∀ ops,
      (h.run ops).stream = { h.stream with subscriptions := (h.run ops).stream.subscriptions } ∧
      (h.run ops).stream.buffered = 0 ∧ (h.run ops).stream.subscriberCount = 0 ∧
      ∀ now e lastSeen,
        (h.run ops).stream.publish now e = ((h.run ops).stream, false) ∧
        (h.run ops).stream.subscribe now lastSeen =
          ((h.run ops).stream, .error .streamNotFound)) ∧
    ∀ id sub op ops, h.stream.subscription? id = some sub → op ∈ [.remove, .unsubscribe id] →
      Op.drop id ∉ ops →
      ((h.step op).run ops).answers id =
        h.answers id ++ readOut sub.queue (ops.count (.receive id)) := by
  refine ⟨hr.handed_rise.1.imp Nat.ne_of_lt, ?_, h.run_of_leavers, rfl, ?_, ?_, ?_⟩
  · exact (List.filter_sublist.map _).nodup hr.idsDistinct.nodup
  · intro hclosed
    cases hidle : h.stream.isIdle with
    | true => exact (h.stream.gone_closeIfIdle hidle).removed
    | false =>
      simp only [closeIfIdle, hidle, Bool.false_eq_true, if_false] at hclosed
  · intro hremoved ops
    obtain ⟨hgone, hframe⟩ := gone_run (hr.gone hremoved) ops
    refine ⟨hframe, ?_, ?_, fun now e lastSeen => ⟨hgone.publish now e, hgone.subscribe now lastSeen⟩⟩
    · rw [buffered, Replay.size, hgone.entries, List.length_nil]
    · rw [subscriberCount_eq_length, registeredIds_eq_nil _ hgone.idle, List.length_nil]
  · intro id sub op ops hsub hop hops
    have hleft : (h.step op).stream.subscription? id = some sub.deregister ∧
        (h.step op).answers id = h.answers id := by
      rw [answers_step]
      rcases List.mem_cons.mp hop with rfl | hop
      · exact ⟨(h.stream.subscription?_remove id).trans (by rw [hsub]; rfl), List.append_nil _⟩
      · obtain rfl := List.mem_singleton.mp hop
        refine ⟨(h.stream.subscription?_unsubscribe id id).trans ?_, List.append_nil _⟩
        rw [hsub, Option.map_some, if_pos rfl]
    rw [← hleft.2]
    exact (h.step op).answers_of_deregistered id sub.deregister ops hleft.1 rfl hops

/-- The first subscriber of a crowded stream leaves once more, and then the stream is removed: the
second one reads what it has queued, whatever else is tried. -/
theorem lifecycle_terminal_crowded :
    crowded.Reachable "news" { queueCapacity := 2 } false ∧ crowded.handed = [1, 2] ∧
      (crowded.run [.drop 1, .unsubscribe 1, .drop 7]).stream.subscription? 2 =
        crowded.stream.subscription? 2 ∧
      (crowded.step .remove).stream.removed = true ∧
      ((crowded.step .remove).stream.publish 0 {}).2 = false ∧
      ((crowded.step .remove).run [.receive 2, .publish {}, .receive 2, .subscribe [],
        .receive 2]).answers 2 =
        [.event { id := [50], data := [98] }, .event { id := [51], data := [99] }, .closed] := by
  have hr : crowded.Reachable "news" { queueCapacity := 2 } false := reachable_ofOps _ _
  have hfound : crowded.stream.subscription? 2 =
      some { id := 2, queue := [{ id := [50], data := [98] }, { id := [51], data := [99] }] } := by
    decide +kernel
  obtain ⟨_, _, hleave, hremoved, _, _, hread⟩ := lifecycle_terminal _ _ _ crowded hr
  obtain ⟨_, _, _, _, _, hgone, _⟩ :=
    lifecycle_terminal _ _ _ (crowded.step .remove) (hr.step .remove)
  refine ⟨hr, by decide +kernel, ?_, hremoved, ?_, ?_⟩
  · exact (hleave [.drop 1, .unsubscribe 1, .drop 7] (by decide)).2.2 2 (by decide)
  · exact congrArg Prod.snd ((hgone hremoved []).2.2.2 0 {} []).1
  · rw [hread 2 _ .remove [.receive 2, .publish {}, .receive 2, .subscribe [], .receive 2] hfound
      List.mem_cons_self (by decide)]
    decide +kernel

end History

end EventBroker.EventStream
