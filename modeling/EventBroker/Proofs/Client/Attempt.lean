import EventBroker.Proofs.Client.Reading

/-!
One connection of a client that reconnects. It makes progress if the last id among the events
that it delivers is a new one; then the count of connections starts again. What follows it, a
delay or the end, is decided by the number of connections since the last progress.
-/
namespace EventBroker.Client

open EventBroker.Frame

theorem script_send (p : Peer) (r : Http.Request) :
    (p.send r).1.script.length ≤ p.script.length ∧
      ∀ response, (p.send r).2 = some response →
        (p.send r).1.script.length < p.script.length := by
  unfold Peer.send
  split
  · exact ⟨Nat.le_refl _, nofun⟩
  · simp only
    split
    · exact ⟨Nat.le_refl _, nofun⟩
    · next hscript => simp [hscript]
    · next hscript => simp [hscript]

/-- An open connection has taken a reply. -/
theorem script_connect (c : Client) (topic : Option String) :
    (c.connect topic).1.peer.script.length ≤ c.peer.script.length ∧
      ∀ reader, (c.connect topic).2 = .ok reader →
        (c.connect topic).1.peer.script.length < c.peer.script.length := by
  obtain ⟨hle, hlt⟩ := script_send c.peer (c.request topic)
  unfold connect
  rcases hsend : c.peer.send (c.request topic) with ⟨peer, _ | response⟩
  · rw [hsend] at hle
    exact ⟨hle, nofun⟩
  · rw [hsend] at hle hlt
    simp only
    split
    · rw [call_eq]
      exact ⟨hle, fun _ _ => hlt response rfl⟩
    · exact ⟨hle, nofun⟩

theorem peer_handle (state : Client × List Event) (e : Event) :
    (handle state e).1.peer = state.1.peer := by
  unfold handle noteDelivered noteRetry
  cases e.retry <;> cases e.hasData <;> cases e.id.isEmpty <;> rfl

theorem peer_foldl_handle (events : List Event) (state : Client × List Event) :
    (events.foldl handle state).1.peer = state.1.peer := by
  induction events generalizing state with
  | nil => rfl
  | cons e events ih => rw [List.foldl_cons, ih, peer_handle]

/-- Events without an id are not remembered. -/
theorem remembered_of_nil (before : Bytes) (events : List Event)
    (hnone : ∀ e ∈ events, e.id = []) : remembered before events = before := by
  induction events with
  | nil => rfl
  | cons e events ih =>
    have hrest := ih fun x hx => hnone x (List.mem_cons_of_mem e hx)
    unfold remembered at hrest ⊢
    rw [List.foldl_cons, hnone e List.mem_cons_self, List.isEmpty_nil, Bool.not_true,
      Bool.and_false, if_neg Bool.false_ne_true, hrest]

/-- The last event with an id is remembered. -/
theorem remembered_of_last (before : Bytes) (front back : List Event) (e : Event)
    (hdata : e.hasData = true) (hid : e.id ≠ []) (hback : ∀ x ∈ back, x.id = []) :
    remembered before (front ++ e :: back) = e.id := by
  have hcons : ∀ before, remembered before (e :: back) =
      remembered (if e.hasData && !e.id.isEmpty then e.id else before) back := fun _ => rfl
  have hempty : e.id.isEmpty = false := Bool.eq_false_iff.mpr (mt List.isEmpty_iff.mp hid)
  rw [remembered_append, hcons, hdata, hempty, Bool.not_false, Bool.and_self, if_pos rfl,
    remembered_of_nil _ back hback]

/-- One connection: the last id among the events delivered is remembered, and a connection that
delivers any has taken a reply. -/
theorem subscribe_frame (c : Client) (topic : String) :
    (c.subscribe topic).1.lastEventId = remembered c.lastEventId (c.subscribe topic).2.1 ∧
      (∀ e ∈ (c.subscribe topic).2.1, e.hasData = true) ∧
      (c.subscribe topic).1.config = c.config ∧
      (c.subscribe topic).1.peer.script.length ≤ c.peer.script.length ∧
      ((c.subscribe topic).2.1 ≠ [] →
        (c.subscribe topic).1.peer.script.length < c.peer.script.length) := by
  obtain ⟨hid, hconfig⟩ := c.connect_frame (some topic)
  obtain ⟨hle, hlt⟩ := c.script_connect (some topic)
  rcases hconnect : c.connect (some topic) with ⟨opened, fault | reader⟩
  · rw [hconnect] at hid hconfig hle
    have hsubscribe : c.subscribe topic = (opened, [], .failed fault) := by
      unfold subscribe readStream
      rw [hconnect]
    rw [hsubscribe]
    exact ⟨hid, nofun, hconfig, hle, fun hne => absurd rfl hne⟩
  · rw [hconnect] at hid hconfig hlt
    obtain ⟨calls, hsubscribe⟩ := c.subscribe_of_connect opened topic reader hconnect
    obtain ⟨events, hread⟩ :=
      readChunks_folds reader.ending reader.decoder (opened, []) reader.chunks
    obtain ⟨hremembered, hkept, hdelivered⟩ := foldl_handle events (opened, [])
    have hpeer := peer_foldl_handle events (opened, [])
    rw [hsubscribe, hread]
    simp only [hdelivered, List.append_nil, List.reverse_reverse, remembered_filter]
    refine ⟨?_, fun e he => (List.mem_filter.mp he).2, hkept.trans hconfig, ?_, fun _ => ?_⟩
    · rw [hremembered, hid]
    · rw [hpeer]
      exact (hlt reader rfl).le
    · rw [hpeer]
      exact hlt reader rfl

/-- What the policy makes of the connections without progress. -/
theorem nextAttempt_eq (c : Client) (before : Bytes) (attempt fruitless : Nat) (factor : Float)
    (h : (if c.lastEventId ≠ before then 0 else attempt) = fruitless) :
    c.nextAttempt before attempt factor =
      (fruitless + 1,
        if c.config.backoff.maxAttempts ≠ 0 ∧ c.config.backoff.maxAttempts ≤ fruitless then none
        else some (c.config.backoff.delay (fruitless + 1) c.retryHint factor)) := by
  unfold nextAttempt Backoff.allows
  simp only [h]
  by_cases hstop : c.config.backoff.maxAttempts ≠ 0 ∧ c.config.backoff.maxAttempts ≤ fruitless
  · have hforbid : (c.config.backoff.maxAttempts == 0 ||
        decide (fruitless + 1 ≤ c.config.backoff.maxAttempts)) = false := by
      simp only [Bool.or_eq_false_iff, beq_eq_false_iff_ne, decide_eq_false_iff_not]
      omega
    rw [if_pos hstop, hforbid, if_neg Bool.false_ne_true]
  · have hallow : (c.config.backoff.maxAttempts == 0 ||
        decide (fruitless + 1 ≤ c.config.backoff.maxAttempts)) = true := by
      simp only [Bool.or_eq_true, beq_iff_eq, decide_eq_true_eq]
      omega
    rw [if_neg hstop, if_pos hallow]

/-- A connection about to be made, after `waits` delays. `count` is the number of connections since
the last one that made progress, that one included, or of all of them if none did. -/
structure Attempt where
  client : Client
  count : Nat := 0
  waits : Nat := 0

namespace Attempt

section
variable (topic : String)

def after (a : Attempt) : Client := (a.client.subscribe topic).1

def delivered (a : Attempt) : List Event := (a.client.subscribe topic).2.1

def outcome (a : Attempt) : Outcome := (a.client.subscribe topic).2.2

/-- The last id among the events delivered is another one than was remembered. -/
def Progress (a : Attempt) : Prop :=
  remembered a.client.lastEventId (a.delivered topic) ≠ a.client.lastEventId

instance (a : Attempt) : Decidable (a.Progress topic) :=
  inferInstanceAs (Decidable (_ ≠ _))

/-- The connections behind the last one that made progress, or behind the first, up to this one. -/
def fruitless (a : Attempt) : Nat := if a.Progress topic then 0 else a.count

def verdict (a : Attempt) (backoff : Backoff) (fruitless : Nat) (factor : Float) :
    Except Outcome Duration :=
  match a.outcome topic with
  | .waiting => .error .waiting
  | outcome =>
    if backoff.maxAttempts ≠ 0 ∧ backoff.maxAttempts ≤ fruitless then .error outcome
    else
      match backoff.delay (fruitless + 1) (a.after topic).retryHint factor with
      | .error cause => .error (.failed (.delay cause))
      | .ok delay => .ok delay

theorem progress_iff (a : Attempt) :
    a.Progress topic ↔ (a.after topic).lastEventId ≠ a.client.lastEventId := by
  unfold Progress delivered after
  rw [(a.client.subscribe_frame topic).1]

theorem not_progress_of_nil (a : Attempt) (h : ∀ e ∈ a.delivered topic, e.id = []) :
    ¬a.Progress topic := by
  unfold Progress
  rw [remembered_of_nil _ _ h]
  exact fun hne => hne rfl

theorem progress_iff_last (a : Attempt) (front : List Event) (e : Event) (back : List Event)
    (h : a.delivered topic = front ++ e :: back) (hid : e.id ≠ [])
    (hback : ∀ x ∈ back, x.id = []) : a.Progress topic ↔ e.id ≠ a.client.lastEventId := by
  have hmem : e ∈ a.delivered topic := by
    rw [h]
    exact List.mem_append_right _ List.mem_cons_self
  have hdata := (a.client.subscribe_frame topic).2.1 e hmem
  unfold Progress
  rw [h, remembered_of_last _ front back e hdata hid hback]

theorem config_after (a : Attempt) : (a.after topic).config = a.client.config :=
  (a.client.subscribe_frame topic).2.2.1

/-- Progress takes a reply of the peer. -/
theorem script_after (a : Attempt) :
    (a.after topic).peer.script.length ≤ a.client.peer.script.length ∧
      (a.Progress topic → (a.after topic).peer.script.length < a.client.peer.script.length) := by
  obtain ⟨_, _, _, hle, hlt⟩ := a.client.subscribe_frame topic
  refine ⟨hle, fun hprogress => hlt fun hnil => ?_⟩
  refine a.not_progress_of_nil topic (fun e he => ?_) hprogress
  unfold delivered at he
  rw [hnil] at he
  exact absurd he List.not_mem_nil

end

variable (topic : String) (draw : Nat → Float)

def advance (a : Attempt) : Except Outcome (Duration × Attempt) :=
  match a.client.subscribe topic with
  | (_, _, .waiting) => .error .waiting
  | (c, _, outcome) =>
    match c.nextAttempt a.client.lastEventId a.count (draw a.waits) with
    | (_, none) => .error outcome
    | (_, some (.error cause)) => .error (.failed (.delay cause))
    | (count, some (.ok delay)) => .ok (delay, { client := c, count, waits := a.waits + 1 })

/-- What follows a connection is decided by the connections without progress up to it. -/
theorem advance_eq (a : Attempt) :
    a.advance topic draw =
      (a.verdict topic a.client.config.backoff (a.fruitless topic) (draw a.waits)).map
        fun delay => (delay, ⟨a.after topic, a.fruitless topic + 1, a.waits + 1⟩) := by
  have hcount : (if (a.after topic).lastEventId ≠ a.client.lastEventId then 0 else a.count) =
      a.fruitless topic := by
    unfold fruitless
    by_cases hprogress : a.Progress topic
    · rw [if_pos hprogress, if_pos ((a.progress_iff topic).mp hprogress)]
    · rw [if_neg hprogress, if_neg (mt (a.progress_iff topic).mpr hprogress)]
  have hnext := nextAttempt_eq _ _ _ _ (draw a.waits) hcount
  rw [a.config_after topic] at hnext
  unfold advance verdict outcome
  unfold after at hnext ⊢
  rcases hsubscribe : a.client.subscribe topic with ⟨c, delivered, outcome⟩
  rw [hsubscribe] at hnext
  cases outcome with
  | waiting => rfl
  | ended | failed fault =>
    simp only [hnext]
    by_cases hstop : a.client.config.backoff.maxAttempts ≠ 0 ∧
        a.client.config.backoff.maxAttempts ≤ a.fruitless topic
    · rw [if_pos hstop, if_pos hstop]
      rfl
    · rw [if_neg hstop, if_neg hstop]
      cases a.client.config.backoff.delay (a.fruitless topic + 1) c.retryHint (draw a.waits) <;> rfl

/-- What an attempt that follows another one starts from. -/
theorem next_eq (a b : Attempt) (delay : Duration) (h : a.advance topic draw = .ok (delay, b)) :
    b.client = a.after topic ∧ b.count = a.fruitless topic + 1 ∧ b.waits = a.waits + 1 ∧
      b.client.config = a.client.config := by
  rw [advance_eq] at h
  cases hverdict : a.verdict topic a.client.config.backoff (a.fruitless topic) (draw a.waits) with
  | error outcome =>
    rw [hverdict] at h
    cases h
  | ok delay =>
    rw [hverdict] at h
    cases h
    exact ⟨rfl, rfl, rfl, a.config_after topic⟩

/-- The policy lets a row go on while the connections without progress are few. -/
theorem fruitless_lt (a b : Attempt) (delay : Duration)
    (h : a.advance topic draw = .ok (delay, b)) :
    a.client.config.backoff.maxAttempts = 0 ∨
      a.fruitless topic < a.client.config.backoff.maxAttempts := by
  by_contra hstop
  have hgive : a.client.config.backoff.maxAttempts ≠ 0 ∧
      a.client.config.backoff.maxAttempts ≤ a.fruitless topic := by omega
  rw [advance_eq] at h
  unfold verdict at h
  cases houtcome : a.outcome topic with
  | waiting =>
    simp only [houtcome] at h
    cases h
  | ended | failed fault =>
    simp only [houtcome, if_pos hgive] at h
    cases h

end Attempt

end EventBroker.Client
