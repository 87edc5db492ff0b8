import EventBroker.Proofs.EventStream.Log
import EventBroker.Proofs.EventStream.Mailbox
import Mathlib.Data.List.Basic

/-!
Every subscriber gets exactly the events that were published while it was registered and
found room in its own queue, in order and each once, and nothing that other subscribers
do has a part in it. Where the log keeps every event, the replay that a subscriber is
given and its queue meet without a gap: together they are all that was published from
the creation of the stream until it left.
-/
namespace EventBroker.EventStream

namespace Moment

/-- While its queue has room, a subscriber takes all that is published until it leaves. -/
theorem accepted_of_hasRoom (m : Moment) (id : Nat) (hid : id < m.stream.nextSubscriber)
    (hroom : m.stream.isRegistered id = true → m.published.isSome = true →
      m.stream.hasRoom id = true) :
    m.accepted id = if m.stream.hasLeft id then none else m.published := by
  cases hpublished : m.published with
  | none => rw [m.accepted_of_published_eq_none id hpublished, ite_self]
  | some e =>
    unfold accepted hasLeft
    cases hregistered : m.stream.isRegistered id with
    | false => simp [hid]
    | true => simp [hroom hregistered (by rw [hpublished]; rfl), hpublished]

end Moment

namespace History

structure Sound (settings : StreamSettings) (h : History) : Prop where
  settings_eq : h.stream.settings = settings
  ids : h.stream.IdsBelow
  past_ids : ∀ m ∈ h.past, m.stream.IdsBelow
  past_next : ∀ m ∈ h.past, m.after.nextSubscriber ≤ h.stream.nextSubscriber

theorem Sound.step (settings : StreamSettings) (h : History) (hs : h.Sound settings) (op : Op) :
    (h.step op).Sound settings := by
  have hnext := nextSubscriber_le_perform h.stream h.now op
  have hsettings := (perform_identity h.stream h.now op).2
  refine ⟨hsettings.trans hs.settings_eq, hs.ids.perform h.now op, ?_, ?_⟩
  · intro m hm
    rcases List.mem_append.mp hm with hm | hm
    · exact hs.past_ids m hm
    · rw [List.mem_singleton.mp hm]
      exact hs.ids
  · intro m hm
    rcases List.mem_append.mp hm with hm | hm
    · exact Nat.le_trans (hs.past_next m hm) hnext
    · rw [List.mem_singleton.mp hm]
      exact Nat.le_refl _

variable {name : String} {settings : StreamSettings} {auto : Bool}

theorem Reachable.sound (h : History) (hr : h.Reachable name settings auto) :
    h.Sound settings := by
  induction hr with
  | start now =>
    refine ⟨rfl, fun id _ => rfl, ?_, ?_⟩ <;> intro m hm <;> cases hm
  | step hr op ih => exact ih.step settings _ op

/-- Before its id is handed out, a subscriber has no part in any step. -/
theorem Sound.not_found (h : History) (hs : h.Sound settings) (id : Nat)
    (hid : h.stream.nextSubscriber ≤ id) (m : Moment) (hm : m ∈ h.past) :
    m.stream.subscription? id = none := by
  have hnext := hs.past_next m hm
  have hmono : m.stream.nextSubscriber ≤ m.after.nextSubscriber :=
    nextSubscriber_le_perform m.stream m.now m.op
  exact hs.past_ids m hm id (by omega)

theorem Sound.received_eq_nil (h : History) (hs : h.Sound settings) (id : Nat)
    (hid : h.stream.nextSubscriber ≤ id) : h.received id = [] := by
  rw [received, List.filterMap_eq_nil_iff]
  intro m hm
  exact m.received_of_not_found id (hs.not_found h id hid m hm)

theorem Sound.accepted_eq_nil (h : History) (hs : h.Sound settings) (id : Nat)
    (hid : h.stream.nextSubscriber ≤ id) : h.accepted id = [] := by
  rw [accepted, List.filterMap_eq_nil_iff]
  intro m hm
  exact m.accepted_of_not_found id (hs.not_found h id hid m hm)

theorem Sound.notices_eq_nil (h : History) (hs : h.Sound settings) (id : Nat)
    (hid : h.stream.nextSubscriber ≤ id) : h.notices id = [] := by
  rw [notices, List.filterMap_eq_nil_iff]
  intro m hm
  rw [hs.not_found h id hid m hm]
  rfl

theorem Sound.publishedUntilLeft_eq (h : History) (hs : h.Sound settings) (id : Nat)
    (hid : h.stream.nextSubscriber ≤ id) : h.publishedUntilLeft id = h.published := by
  rw [publishedUntilLeft, published]
  apply List.filterMap_congr
  intro m hm
  have hnext := hs.past_next m hm
  have hmono : m.stream.nextSubscriber ≤ m.after.nextSubscriber :=
    nextSubscriber_le_perform m.stream m.now m.op
  have hunknown : m.stream.hasLeft id = false := by
    rw [hasLeft, decide_eq_false (by omega), Bool.false_and]
  rw [hunknown, if_neg Bool.false_ne_true]

/-- What a subscriber was given and still holds is what it accepted. -/
theorem Reachable.received_append_queue (h : History) (hr : h.Reachable name settings auto)
    (id : Nat) (sub : Subscription) (hsub : h.stream.subscription? id = some sub) :
    h.received id ++ sub.queue = h.accepted id := by
  induction hr generalizing sub with
  | start now => cases hsub
  | @step h hr op ih =>
    rw [received_step, accepted_step]
    cases hold : h.stream.subscription? id with
    | none =>
      have hs := hr.sound h
      rcases (h.moment op).registers id hold with hnone | ⟨hid, _, hnew⟩
      · cases hnone.symm.trans hsub
      · obtain rfl : { id } = sub := Option.some.inj (hnew.symm.trans hsub)
        rw [hs.received_eq_nil h id (by rw [hid]; exact Nat.le_refl _),
          hs.accepted_eq_nil h id (by rw [hid]; exact Nat.le_refl _),
          (h.moment op).received_of_not_found id hold,
          (h.moment op).accepted_of_not_found id hold]
        rfl
    | some old =>
      have hheeds := (h.moment op).heeds id old sub hold hsub
      rw [List.append_assoc, hheeds.balance, ← List.append_assoc, ih old hold]

/-- What a subscriber was given is the beginning of what it accepted, also once it is dropped. -/
theorem Reachable.received_prefix_accepted (h : History) (hr : h.Reachable name settings auto)
    (id : Nat) : h.received id <+: h.accepted id := by
  induction hr with
  | start now => exact List.nil_prefix
  | @step h hr op ih =>
    cases hnow : (h.step op).stream.subscription? id with
    | some sub => exact ⟨sub.queue, (hr.step op).received_append_queue _ id sub hnow⟩
    | none =>
      rw [received_step, accepted_step]
      cases hold : h.stream.subscription? id with
      | none =>
        rw [(h.moment op).received_of_not_found id hold,
          (h.moment op).accepted_of_not_found id hold, Option.toList_none, List.append_nil,
          List.append_nil]
        exact ih
      | some old =>
        obtain ⟨_, haccepted, hreceived⟩ := (h.moment op).departs id old hold hnow
        rw [hreceived, haccepted, Option.toList_none, List.append_nil, List.append_nil]
        exact ih

/-- The queue of a subscriber and what it was given follow from its own notices. -/
theorem Reachable.foldl_notices (h : History) (hr : h.Reachable name settings auto)
    (id : Nat) (sub : Subscription) (hsub : h.stream.subscription? id = some sub) :
    (h.notices id).foldl (Mailbox.heed settings.queueCapacity) {} =
      ⟨sub.queue, sub.registered, h.received id⟩ := by
  induction hr generalizing sub with
  | start now => cases hsub
  | @step h hr op ih =>
    have hs := hr.sound h
    rw [received_step, notices_step]
    cases hold : h.stream.subscription? id with
    | none =>
      rcases (h.moment op).registers id hold with hnone | ⟨hid, _, hnew⟩
      · cases hnone.symm.trans hsub
      · obtain rfl : { id } = sub := Option.some.inj (hnew.symm.trans hsub)
        rw [hs.received_eq_nil h id (by rw [hid]; exact Nat.le_refl _),
          hs.notices_eq_nil h id (by rw [hid]; exact Nat.le_refl _),
          (h.moment op).received_of_not_found id hold]
        rfl
    | some old =>
      have hheeds := (h.moment op).heeds id old sub hold hsub
      have hcapacity : (h.moment op).stream.settings = settings := hs.settings_eq
      rw [hcapacity] at hheeds
      rw [Option.isSome_some, if_pos rfl, List.foldl_append, ih old hold,
        hheeds.mailbox (h.received id)]

/-- What a subscriber was given follows from its own notices, also once it is dropped. -/
theorem Reachable.received_of_notices (h : History) (hr : h.Reachable name settings auto)
    (id : Nat) :
    ((h.notices id).foldl (Mailbox.heed settings.queueCapacity) {}).received = h.received id := by
  induction hr with
  | start now => rfl
  | @step h hr op ih =>
    cases hnow : (h.step op).stream.subscription? id with
    | some sub => rw [(hr.step op).foldl_notices _ id sub hnow]
    | none =>
      rw [received_step, notices_step]
      cases hold : h.stream.subscription? id with
      | none =>
        rw [(h.moment op).received_of_not_found id hold, Option.isSome_none,
          if_neg Bool.false_ne_true, Option.toList_none, List.append_nil, Option.toList_none,
          List.append_nil]
        exact ih
      | some old =>
        obtain ⟨hnotice, _, hreceived⟩ := (h.moment op).departs id old hold hnow
        rw [hreceived, hnotice, ite_self, Option.toList_none, List.append_nil, Option.toList_none,
          List.append_nil]
        exact ih

theorem Reachable.logs (h : History) (hr : h.Reachable name settings auto)
    (hauto : settings.autoReplay = true) (httl : settings.ttl = none)
    (hcapacity : settings.capacity = none) : h.stream.Logs h.published := by
  induction hr with
  | start now => exact ⟨⟨httl, hcapacity⟩, fun _ => rfl⟩
  | @step h hr op ih =>
    rw [published_step]
    have hsettings : (h.moment op).stream.settings = settings := (hr.sound h).settings_eq
    exact ih.after (h.moment op) h.published (by rw [hsettings]; exact hauto)

/-- A subscriber that asks for everything, and whose queue never overflows, misses nothing. -/
theorem Reachable.replay_append_accepted (h : History) (hr : h.Reachable name settings auto)
    (hauto : settings.autoReplay = true) (httl : settings.ttl = none)
    (hcapacity : settings.capacity = none) (id : Nat) (replay : List Stored) (m : Moment)
    (hm : m ∈ h.past) (hop : m.op = .subscribe [])
    (hok : (m.stream.subscribe m.now []).2 = .ok (id, replay))
    (hroom : ∀ m ∈ h.past, m.stream.isRegistered id = true → m.published.isSome = true →
      m.stream.hasRoom id = true) :
    replay.map (·.event) ++ h.accepted id = h.publishedUntilLeft id := by
  induction hr with
  | start now => cases hm
  | @step h hr op ih =>
    have hs := hr.sound h
    obtain ⟨hremoved, hid, hlt, hreplay⟩ := m.stream.subscribe_ok m.now [] id replay hok
    rw [← hop] at hlt
    rw [accepted_step, publishedUntilLeft_step]
    rcases List.mem_append.mp hm with hm | hm
    · have hnext := hs.past_next m hm
      have hbefore := fun m' hm' => hroom m' (List.mem_append_left _ hm')
      have hlast := hroom (h.moment op) (List.mem_append_right _ (List.mem_singleton.mpr rfl))
      rw [(h.moment op).accepted_of_hasRoom id (Nat.lt_of_lt_of_le hlt hnext) hlast,
        ← List.append_assoc, ih hm hbefore]
      rfl
    · obtain rfl := List.mem_singleton.mp hm
      have hsettings : (h.moment op).stream.settings = settings := hs.settings_eq
      have hlogs := hr.logs h hauto httl hcapacity
      obtain rfl : op = .subscribe [] := hop
      have hnone : (h.moment (.subscribe [])).published = none := rfl
      rw [hsettings, hauto, if_pos rfl] at hreplay
      rw [hs.accepted_eq_nil h id (Nat.le_of_eq hid.symm), hs.publishedUntilLeft_eq h id
        (Nat.le_of_eq hid.symm), (h.moment _).accepted_of_published_eq_none id hnone, hnone,
        hreplay, ite_self]
      simp only [Option.toList_none, List.append_nil]
      exact (congrArg (List.map (·.event)) (hlogs.unbounded.snapshot_nil _)).trans
        (hlogs.entries hremoved)

/-- A subscriber was given, in order, the beginning of what it accepted, and as long as it is
there its queue holds the rest. Its part is the same in every history in which it notices the
same. With a log that keeps everything, one that asked for everything and always had room misses
nothing from the creation of the stream on. -/
theorem exact_fan_out (name : String) (settings : StreamSettings) (auto : Bool) (h : History)
    (hr : h.Reachable name settings auto) (id : Nat) :
    h.received id <+: h.accepted id ∧
      (∀ sub, h.stream.subscription? id = some sub →
        h.received id ++ sub.queue = h.accepted id) ∧
      (∀ name' settings' auto' h' id', Reachable name' settings' auto' h' →
        settings'.queueCapacity = settings.queueCapacity → h'.notices id' = h.notices id →
        h'.received id' = h.received id ∧
          ∀ sub sub', h.stream.subscription? id = some sub →
            h'.stream.subscription? id' = some sub' → sub'.queue = sub.queue) ∧
      (settings.autoReplay = true → settings.ttl = none → settings.capacity = none →
        ∀ m ∈ h.past, ∀ replay, m.op = .subscribe [] →
        (m.stream.subscribe m.now []).2 = .ok (id, replay) →
        (∀ m ∈ h.past, m.stream.isRegistered id = true → m.published.isSome = true →
          m.stream.hasRoom id = true) →
        ∀ sub, h.stream.subscription? id = some sub →
          replay.map (·.event) ++ h.received id ++ sub.queue = h.publishedUntilLeft id) := by
  refine ⟨hr.received_prefix_accepted h id, hr.received_append_queue h id, ?_, ?_⟩
  · intro name' settings' auto' h' id' hr' hcapacity hnotices
    constructor
    · rw [← hr.received_of_notices h id, ← hr'.received_of_notices h' id', hcapacity, hnotices]
    · intro sub sub' hsub hsub'
      have hmailbox := hr.foldl_notices h id sub hsub
      have hmailbox' := hr'.foldl_notices h' id' sub' hsub'
      rw [hcapacity, hnotices, hmailbox] at hmailbox'
      injection hmailbox' with hqueue
      exact hqueue.symm
  · intro hauto httl hcapacity m hm replay hop hok hroom sub hsub
    rw [List.append_assoc, hr.received_append_queue h id sub hsub]
    exact hr.replay_append_accepted h hauto httl hcapacity id replay m hm hop hok hroom

def ofOps (settings : StreamSettings) (ops : List Op) : History :=
  ops.foldl step { stream := .new "news" settings false, now := 0 }

theorem reachable_ofOps (settings : StreamSettings) (ops : List Op) :
    (ofOps settings ops).Reachable "news" settings false :=
  Reachable.foldl "news" settings false ops _ (.start 0)

/-- The second subscriber never reads, and its queue is full when `d` is published. -/
def crowded : History :=
  ofOps { queueCapacity := 2 } [.publish { data := [97] }, .subscribe [], .subscribe [],
    .publish { data := [98] }, .receive 1, .publish { data := [99] }, .publish { data := [100] },
    .unsubscribe 1, .publish { data := [101] }]

/-- The same without the second subscriber. -/
def uncrowded : History :=
  ofOps { queueCapacity := 2 } [.publish { data := [97] }, .subscribe [],
    .publish { data := [98] }, .receive 1, .publish { data := [99] }, .publish { data := [100] },
    .unsubscribe 1, .publish { data := [101] }]

theorem exact_fan_out_crowded :
    crowded.Reachable "news" { queueCapacity := 2 } false ∧
      ∃ sub, crowded.stream.subscription? 1 = some sub ∧
        crowded.received 1 ++ sub.queue = crowded.accepted 1 ∧
        uncrowded.received 1 = crowded.received 1 ∧
        { id := [49], data := [97] } :: (crowded.received 1 ++ sub.queue) =
          crowded.publishedUntilLeft 1 := by
  let sub : Subscription :=
    { id := 1, queue := [{ id := [51], data := [99] }, { id := [52], data := [100] }],
      registered := false }
  let subscribes : Moment :=
    { stream := (ofOps { queueCapacity := 2 } [.publish { data := [97] }]).stream, now := 0,
      op := .subscribe [] }
  have hr : crowded.Reachable "news" { queueCapacity := 2 } false := reachable_ofOps _ _
  have hsub : crowded.stream.subscription? 1 = some sub := by decide +kernel
  have hnotices : uncrowded.notices 1 = crowded.notices 1 := by decide +kernel
  obtain ⟨_, hbalance, halone, hall⟩ := exact_fan_out _ _ _ crowded hr 1
  refine ⟨hr, sub, hsub, hbalance sub hsub, ?_, ?_⟩
  · exact (halone _ _ _ uncrowded 1 (reachable_ofOps _ _) rfl hnotices).1
  · exact hall rfl rfl rfl subscribes (by decide +kernel) [⟨{ id := [49], data := [97] }, 0⟩]
      rfl (by decide +kernel) (by decide +kernel) sub hsub

end History

end EventBroker.EventStream
