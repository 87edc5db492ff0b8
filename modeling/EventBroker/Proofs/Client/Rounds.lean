import EventBroker.Proofs.Client.Bookkeeping
import EventBroker.Proofs.Client.Reconnection
import Mathlib.Data.Nat.Find

/-!
The connections of a client that reconnects, by their numbers. What stands before each of them is
what the earlier ones heard: the last id that was delivered, which its request asks to go on
from, and the last delay that was suggested. The first connection at which too many have been
made since the remembered id changed is the last one; behind every other one there is a delay.
-/
namespace EventBroker

/-- Whether a row of connections came to an end with a result of its last one. -/
def Outcome.Settled (o : Outcome) : Prop := o ≠ .waiting ∧ ∀ cause, o ≠ .failed (.delay cause)

namespace Client

open EventBroker.Frame

def yields (c : Client) (topic : String) : List Event :=
  match c.connect (some topic) with
  | (_, .error _) => []
  | (_, .ok reader) => reader.ahead.1

theorem connect_client (c : Client) (topic : Option String) :
    ∃ calls, (c.connect topic).1 = { c with peer := (c.peer.send (c.request topic)).1, calls } := by
  unfold connect
  rcases c.peer.send (c.request topic) with ⟨peer, _ | response⟩
  · exact ⟨c.calls, rfl⟩
  · simp only
    split
    · rw [call_eq]
      exact ⟨_, rfl⟩
    · exact ⟨c.calls, rfl⟩

/-- What a connection makes of its client, and what it delivers. -/
theorem subscribe_fields (c : Client) (topic : String) :
    (c.subscribe topic).1.config = c.config ∧ (c.subscribe topic).1.url = c.url ∧
      (c.subscribe topic).1.lastEventId = remembered c.lastEventId (c.yields topic) ∧
      (c.subscribe topic).1.retryHint = suggested c.retryHint (c.yields topic) ∧
      (c.subscribe topic).1.peer = (c.peer.send (c.request (some topic))).1 ∧
      (c.subscribe topic).2.1 = (c.yields topic).filter (·.hasData) := by
  obtain ⟨calls, hopened⟩ := c.connect_client (some topic)
  rcases hconnect : c.connect (some topic) with ⟨opened, fault | reader⟩
  · have hsubscribe : c.subscribe topic = (opened, [], .failed fault) := by
      unfold subscribe readStream
      rw [hconnect]
    rw [hconnect] at hopened
    obtain rfl := hopened
    rw [hsubscribe, yields, hconnect]
    exact ⟨rfl, rfl, rfl, rfl, rfl, rfl⟩
  · obtain ⟨hdelivered, hid, hhint, _⟩ := c.subscribe_of_ahead opened topic reader hconnect
    obtain ⟨calls', hsubscribe⟩ := c.subscribe_of_connect opened topic reader hconnect
    rw [hconnect] at hopened
    obtain rfl := hopened
    rw [hdelivered, hid, hhint, hsubscribe, readChunks_eq, foldl_handle_client, yields, hconnect]
    exact ⟨rfl, rfl, rfl, rfl, rfl, rfl⟩

theorem send_reachable (p : Peer) (r : Http.Request) : (p.send r).1.reachable = p.reachable := by
  unfold Peer.send
  split
  · rfl
  · simp only
    split <;> rfl

theorem send_received (p : Peer) (r : Http.Request) :
    (p.send r).1.received = p.received ++ if p.reachable then [r] else [] := by
  unfold Peer.send
  cases p.reachable with
  | false => exact (List.append_nil _).symm
  | true =>
    simp only [Bool.not_true, Bool.false_eq_true, if_false, if_true]
    split <;> rfl

section
variable (c : Client) (topic : String)

/-- The client before its connection number `k`, the first one having the number zero. -/
def nth : Nat → Client
  | 0 => c
  | k + 1 => ((nth k).subscribe topic).1

def heardBy (k : Nat) : List Event :=
  (List.range k).flatMap fun i => (c.nth topic i).yields topic

theorem heardBy_succ (k : Nat) :
    c.heardBy topic (k + 1) = c.heardBy topic k ++ (c.nth topic k).yields topic := by
  unfold heardBy
  rw [List.range_succ, List.flatMap_append, List.flatMap_singleton]

def idBefore (k : Nat) : Bytes :=
  (lastId? ((c.heardBy topic k).filter (·.hasData))).getD c.lastEventId

def hintAfter (k : Nat) : Option Duration :=
  (lastDelay? (c.heardBy topic (k + 1))).or c.retryHint

/-- The client before a connection is the first one, but for what was heard and what was sent. -/
theorem nth_fields (k : Nat) :
    (c.nth topic k).config = c.config ∧ (c.nth topic k).url = c.url ∧
      (c.nth topic k).lastEventId = c.idBefore topic k ∧
      (c.nth topic k).retryHint = (lastDelay? (c.heardBy topic k)).or c.retryHint := by
  unfold idBefore
  rw [← remembered_eq_lastId?, ← suggested_eq_lastDelay?]
  induction k with
  | zero => exact ⟨rfl, rfl, rfl, rfl⟩
  | succ k ih =>
    obtain ⟨hconfig, hurl, hid, hhint⟩ := ih
    obtain ⟨hconfig', hurl', hid', hhint', _⟩ := (c.nth topic k).subscribe_fields topic
    rw [heardBy_succ, remembered_append, suggested_append, ← hid, ← hhint]
    exact ⟨hconfig'.trans hconfig, hurl'.trans hurl, hid', hhint'⟩

def requestAt (k : Nat) : Http.Request :=
  (c.setLastEventId (c.idBefore topic k)).request (some topic)

theorem request_nth (k : Nat) : (c.nth topic k).request (some topic) = c.requestAt topic k := by
  obtain ⟨hconfig, hurl, hid, _⟩ := c.nth_fields topic k
  unfold requestAt request setLastEventId
  rw [hconfig, hurl, hid]

/-- What the peer has received before connection `k`. -/
theorem received_nth (k : Nat) :
    (c.nth topic k).peer.reachable = c.peer.reachable ∧
      (c.nth topic k).peer.received = c.peer.received ++
        if c.peer.reachable then (List.range k).map (c.requestAt topic) else [] := by
  induction k with
  | zero =>
    refine ⟨rfl, ?_⟩
    simp [nth]
  | succ k ih =>
    obtain ⟨hreachable, hreceived⟩ := ih
    obtain ⟨_, _, _, _, hpeer, _⟩ := (c.nth topic k).subscribe_fields topic
    rw [nth, hpeer, send_reachable, send_received, hreachable, hreceived, request_nth,
      List.range_succ]
    refine ⟨rfl, ?_⟩
    cases c.peer.reachable with
    | false => simp
    | true => simp

def Changed (k : Nat) : Prop := c.idBefore topic (k + 1) ≠ c.idBefore topic k

instance (k : Nat) : Decidable (c.Changed topic k) := inferInstanceAs (Decidable (_ ≠ _))

/-- The connections from the latest one that changed the remembered id up to number `k`, both
counted, or all of them if none did. -/
def streak (k : Nat) : Nat := k + 1 - Nat.findGreatest (c.Changed topic) k

theorem streak_succ (k : Nat) :
    c.streak topic (k + 1) = if c.Changed topic (k + 1) then 1 else c.streak topic k + 1 := by
  have hle := Nat.findGreatest_le (P := c.Changed topic) k
  unfold streak
  rw [Nat.findGreatest_succ]
  split
  · omega
  · omega

def GivesUp (k : Nat) : Prop :=
  c.config.backoff.maxAttempts ≠ 0 ∧ c.config.backoff.maxAttempts < c.streak topic k

instance (k : Nat) : Decidable (c.GivesUp topic k) := inferInstanceAs (Decidable (_ ∧ _))

theorem GivesUp.not_changed {c : Client} {topic : String} {k : Nat} (h : c.GivesUp topic k) :
    ¬c.Changed topic k := by
  obtain ⟨hsome, hmany⟩ := h
  intro hchanged
  rw [streak, Nat.findGreatest_eq hchanged] at hmany
  omega

theorem not_givesUp_succ (k : Nat) (h : ∀ i < k, ¬c.GivesUp topic i) (hk : ¬c.GivesUp topic k) :
    ∀ i < k + 1, ¬c.GivesUp topic i := by
  intro i hi
  rcases Nat.lt_succ_iff_lt_or_eq.mp hi with hi | rfl
  · exact h i hi
  · exact hk

/-- Where no connection changes the remembered id, their numbers tell how many there were. -/
theorem streak_of_not_changed (k : Nat) (h : ∀ i ≤ k, ¬c.Changed topic i) :
    c.streak topic k = k + 1 := by
  have hnone : Nat.findGreatest (c.Changed topic) k = 0 :=
    Nat.findGreatest_eq_zero_iff.mpr fun i _ => h i
  rw [streak, hnone, Nat.sub_zero]

def attemptAt (k : Nat) : Attempt :=
  { client := c.nth topic k, count := if k = 0 then 0 else c.streak topic (k - 1), waits := k }

theorem fruitless_attemptAt (k : Nat) :
    (c.attemptAt topic k).fruitless topic + 1 = c.streak topic k := by
  have hprogress : (c.attemptAt topic k).Progress topic ↔ c.Changed topic k := by
    obtain ⟨_, _, hbefore, _⟩ := c.nth_fields topic k
    obtain ⟨_, _, hafter, _⟩ := c.nth_fields topic (k + 1)
    rw [Attempt.progress_iff, Changed, ← hbefore, ← hafter]
    rfl
  unfold Attempt.fruitless attemptAt at *
  simp only [hprogress]
  cases k with
  | zero => simp [streak]
  | succ k =>
    rw [streak_succ]
    by_cases hchanged : c.Changed topic (k + 1)
    · simp [hchanged]
    · simp [hchanged]

variable (draw : Nat → Float)

def delayAfter (k : Nat) : Except Duration.SecondsFault Duration :=
  c.config.backoff.delay (c.streak topic k) (c.hintAfter topic k) (draw k)

/-- What follows connection `k`: a delay, or the end and how it comes out. -/
def follows (k : Nat) : Except Outcome Duration :=
  match ((c.nth topic k).subscribe topic).2.2 with
  | .waiting => .error .waiting
  | outcome =>
    if c.GivesUp topic k then .error outcome
    else (c.delayAfter topic draw k).mapError fun cause => .failed (.delay cause)

inductive Follows (k : Nat) : Except Outcome Duration → Prop
  | waits (hwaits : ((c.nth topic k).subscribe topic).2.2 = .waiting) : Follows k (.error .waiting)
  | ends (hends : ((c.nth topic k).subscribe topic).2.2 ≠ .waiting) (hgives : c.GivesUp topic k) :
    Follows k (.error ((c.nth topic k).subscribe topic).2.2)
  | fails (hgoes : ¬c.GivesUp topic k) (cause : Duration.SecondsFault)
    (hdelay : c.delayAfter topic draw k = .error cause) :
    Follows k (.error (.failed (.delay cause)))
  | delays (hgoes : ¬c.GivesUp topic k) (delay : Duration)
    (hdelay : c.delayAfter topic draw k = .ok delay) : Follows k (.ok delay)

theorem follows_cases (k : Nat) : c.Follows topic draw k (c.follows topic draw k) := by
  unfold follows
  split
  · next hwaits => exact .waits hwaits
  · next hends =>
    split
    · next hgives => exact .ends hends hgives
    · next hgoes =>
      cases hdelay : c.delayAfter topic draw k with
      | error cause => exact .fails hgoes cause hdelay
      | ok delay => exact .delays hgoes delay hdelay

theorem advance_attemptAt (k : Nat) :
    (c.attemptAt topic k).advance topic draw =
      (c.follows topic draw k).map fun delay => (delay, c.attemptAt topic (k + 1)) := by
  have hstreak := c.fruitless_attemptAt topic k
  obtain ⟨hconfig, _⟩ := c.nth_fields topic k
  obtain ⟨_, _, _, hhint⟩ := c.nth_fields topic (k + 1)
  have hnext : (⟨(c.attemptAt topic k).after topic, (c.attemptAt topic k).fruitless topic + 1,
      (c.attemptAt topic k).waits + 1⟩ : Attempt) = c.attemptAt topic (k + 1) := by
    rw [hstreak]
    rfl
  have hgives : c.GivesUp topic k ↔ c.config.backoff.maxAttempts ≠ 0 ∧
      c.config.backoff.maxAttempts ≤ (c.attemptAt topic k).fruitless topic := by
    rw [GivesUp, ← hstreak, Nat.lt_succ_iff]
  have hafter : ((c.attemptAt topic k).after topic).retryHint = c.hintAfter topic k := hhint
  have hbackoff : (c.attemptAt topic k).client.config.backoff = c.config.backoff := by
    rw [← hconfig]
    rfl
  rw [Attempt.advance_eq, hnext, hbackoff]
  congr 1
  have houtcome : (c.attemptAt topic k).outcome topic = ((c.nth topic k).subscribe topic).2.2 := rfl
  unfold Attempt.verdict follows
  rw [hstreak, hafter, houtcome]
  cases ((c.nth topic k).subscribe topic).2.2 with
  | waiting => rfl
  | ended | failed fault =>
    by_cases hstop : c.GivesUp topic k
    · simp only [if_pos hstop, if_pos (hgives.mp hstop)]
    · have hgoes := mt hgives.mpr hstop
      simp only [if_neg hstop, if_neg hgoes]
      unfold delayAfter
      cases hdelay : c.config.backoff.delay (c.streak topic k) (c.hintAfter topic k) (draw k) <;>
        simp only [attemptAt, hdelay, Except.mapError]

/-- A round of reconnecting: the end, or the next round after a delay. -/
theorem reconnectWithin_nth (fuel k : Nat) (events : List Event) (slept : List Duration)
    (hslept : slept.length = k) :
    reconnectWithin topic draw (fuel + 1) (c.attemptAt topic k).count events slept
        (c.nth topic k) =
      match c.follows topic draw k with
      | .error outcome =>
        { client := c.nth topic (k + 1)
          events := events ++ ((c.nth topic k).yields topic).filter (·.hasData)
          slept, outcome }
      | .ok delay =>
        reconnectWithin topic draw fuel (c.attemptAt topic (k + 1)).count
          (events ++ ((c.nth topic k).yields topic).filter (·.hasData)) (slept ++ [delay])
          (c.nth topic (k + 1)) := by
  obtain ⟨_, _, _, _, _, hdelivered⟩ := (c.nth topic k).subscribe_fields topic
  have hround := reconnectWithin_succ topic draw fuel (c.attemptAt topic k) events slept hslept
  rw [advance_attemptAt] at hround
  rw [← hdelivered]
  refine hround.trans ?_
  cases c.follows topic draw k <;> rfl

structure EndsWith (last : Nat) (r : Reconnected) : Prop where
  givesUp : c.GivesUp topic last
  goesOn : ∀ k < last, ¬c.GivesUp topic k
  outcome : r.outcome = ((c.nth topic last).subscribe topic).2.2
  slept : r.slept.map .ok = (List.range last).map (c.delayAfter topic draw)
  events : r.events = (c.heardBy topic (last + 1)).filter (·.hasData)
  client : r.client = c.nth topic (last + 1)

/-- Each round keeps what was delivered and slept so far; the first one at which too many
connections were made is the last. -/
theorem endsWith_of_settled (fuel k : Nat) (events : List Event) (slept : List Duration)
    (hevents : events = (c.heardBy topic k).filter (·.hasData))
    (hslept : slept.map .ok = (List.range k).map (c.delayAfter topic draw))
    (hgoes : ∀ i < k, ¬c.GivesUp topic i)
    (hsettled : (reconnectWithin topic draw fuel (c.attemptAt topic k).count events slept
      (c.nth topic k)).outcome.Settled) :
    ∃ last, c.EndsWith topic draw last (reconnectWithin topic draw fuel
      (c.attemptAt topic k).count events slept (c.nth topic k)) := by
  induction fuel generalizing k events slept with
  | zero => exact absurd rfl hsettled.1
  | succ fuel ih =>
    -- The lists passed on are what the connections before `k` gave; one more round adds its own.
    have hlength : slept.length = k := by simpa using congrArg List.length hslept
    have hheard : events ++ ((c.nth topic k).yields topic).filter (·.hasData) =
        (c.heardBy topic (k + 1)).filter (·.hasData) := by
      rw [heardBy_succ, List.filter_append, hevents]
    have hcases := c.follows_cases topic draw k
    rw [reconnectWithin_nth c topic draw fuel k events slept hlength, hheard] at hsettled ⊢
    cases hfollows : c.follows topic draw k with
    | error outcome =>
      rw [hfollows] at hsettled hcases
      cases hcases with
      | waits => exact absurd rfl hsettled.1
      | ends _ hgives => exact ⟨k, hgives, hgoes, rfl, hslept, rfl, rfl⟩
      | fails _ cause => exact absurd rfl (hsettled.2 cause)
    | ok delay =>
      rw [hfollows] at hsettled hcases
      cases hcases with
      | delays hmore _ hdelay =>
        refine ih (k + 1) _ _ rfl ?_ (c.not_givesUp_succ topic k hgoes hmore) hsettled
        rw [List.map_append, hslept, List.range_succ, List.map_append, List.map_singleton,
          List.map_singleton, hdelay]

/-- A connection does not come out as a delay that is out of range. -/
theorem completes_ne_delay (ending : Ending) (d : Decoder) (chunks : List Bytes)
    (cause : Duration.SecondsFault) :
    (Reader.completes ending d chunks).2 ≠ .failed (.delay cause) := by
  induction chunks generalizing d with
  | nil =>
    intro h
    cases ending <;> cases h
  | cons chunk rest ih =>
    rcases hdecode : d.decode chunk with ⟨d', fault | events⟩
    · simp only [Reader.completes, hdecode]
      intro h
      cases h
    · simp only [Reader.completes, hdecode]
      exact ih d'

theorem subscribe_ne_delay (cause : Duration.SecondsFault) :
    (c.subscribe topic).2.2 ≠ .failed (.delay cause) := by
  intro hdelay
  rcases hconnect : c.connect (some topic) with ⟨opened, fault | reader⟩
  · have hsubscribe : (c.subscribe topic).2.2 = .failed fault := by
      unfold subscribe readStream
      rw [hconnect]
    rw [hsubscribe] at hdelay
    unfold connect at hconnect
    split at hconnect
    · cases hconnect
      cases hdelay
    · simp only at hconnect
      split at hconnect
      · cases hconnect
      · cases hconnect
        cases hdelay
  · rw [(c.subscribe_of_ahead opened topic reader hconnect).2.2.2] at hdelay
    exact completes_ne_delay reader.ending reader.decoder reader.chunks cause hdelay

/-- With the fuel that the bound asks for, a row ends for want of connections only. -/
theorem settled_of_bound (hmax : c.config.backoff.maxAttempts ≠ 0)
    (hmade : ∀ k, (∀ i < k, ¬c.GivesUp topic i) →
      ((c.nth topic k).subscribe topic).2.2 ≠ .waiting ∧
        (c.GivesUp topic k ∨ ∃ delay, c.delayAfter topic draw k = .ok delay))
    (fuel k : Nat) (events : List Event) (slept : List Duration) (hslept : slept.length = k)
    (hgoes : ∀ i < k, ¬c.GivesUp topic i)
    (hcount : (c.attemptAt topic k).count ≤ c.config.backoff.maxAttempts)
    (hfuel : (c.attemptAt topic k).bound ≤ fuel) :
    (reconnectWithin topic draw fuel (c.attemptAt topic k).count events slept
      (c.nth topic k)).outcome.Settled := by
  have hconfig : (c.attemptAt topic k).client.config = c.config := (c.nth_fields topic k).1
  induction fuel generalizing k events slept with
  | zero =>
    unfold Attempt.bound at hfuel
    rw [hconfig] at hfuel
    omega
  | succ fuel ih =>
    obtain ⟨hends, hdelays⟩ := hmade k hgoes
    have hcases := c.follows_cases topic draw k
    have hadvance := c.advance_attemptAt topic draw k
    rw [reconnectWithin_nth c topic draw fuel k events slept hslept]
    cases hfollows : c.follows topic draw k with
    | error outcome =>
      rw [hfollows] at hcases
      cases hcases with
      | waits hwaits => exact absurd hwaits hends
      | ends => exact ⟨hends, (c.nth topic k).subscribe_ne_delay topic⟩
      | fails hmore cause hdelay =>
        obtain ⟨delay, hdelay'⟩ := hdelays.resolve_left hmore
        cases hdelay.symm.trans hdelay'
    | ok delay =>
      rw [hfollows] at hcases hadvance
      cases hcases with
      | delays hmore =>
        obtain ⟨hlt, hfew⟩ := Attempt.bound_lt topic draw _ _ delay hadvance
          (by rwa [hconfig]) (by rwa [hconfig])
        have hnext : (c.attemptAt topic (k + 1)).client.config = c.config :=
          (c.nth_fields topic (k + 1)).1
        rw [hnext] at hfew
        refine ih (k + 1) _ _ ?_ (c.not_givesUp_succ topic k hgoes hmore) hfew (by omega) hnext
        rw [List.length_append, hslept]
        rfl

/-- Under a policy that gives up, reconnecting ends if every connection that it makes does, and
every delay that it needs is in range. -/
theorem settled_of_maxAttempts (hmax : c.config.backoff.maxAttempts ≠ 0)
    (hmade : ∀ k, (∀ i < k, ¬c.GivesUp topic i) →
      ((c.nth topic k).subscribe topic).2.2 ≠ .waiting ∧
        (c.GivesUp topic k ∨ ∃ delay, c.delayAfter topic draw k = .ok delay)) :
    (c.subscribeWithReconnect topic draw).outcome.Settled := by
  have hbound : (c.attemptAt topic 0).bound = c.connectionBound := by
    unfold Attempt.bound connectionBound
    rw [Nat.succ_mul]
    rfl
  exact c.settled_of_bound topic draw hmax hmade c.connectionBound 0 [] [] rfl nofun
    (Nat.zero_le _) hbound.le

/-- When reconnecting ends with a result, it is that of the first connection at which more than the
allowed number have been made since the remembered id changed, that one counted; behind each
one before it there is one delay, for that number and the last delay suggested so far. Every
connection asks for what follows the last id delivered so far, if there is one and a header can
hold it. So the last connection did not change the id, and if none did there was one more than
the allowed number. -/
theorem reconnects_until_giving_up
    (hsettled : (c.subscribeWithReconnect topic draw).outcome.Settled) :
    ∃ last, c.EndsWith topic draw last (c.subscribeWithReconnect topic draw) ∧
      (c.subscribeWithReconnect topic draw).client.peer.received = c.peer.received ++
        (if c.peer.reachable then (List.range (last + 1)).map (c.requestAt topic) else []) ∧
      (∀ k, (c.requestAt topic k).headers =
        ((c.setLastEventId []).request (some topic)).headers ++
          if c.idBefore topic k = [] ∨ Http.isValue (c.idBefore topic k) = false then []
          else [⟨"last-event-id", c.idBefore topic k⟩]) ∧
      (∀ k, (c.nth topic k).lastEventId = c.idBefore topic k ∧
        (c.nth topic (k + 1)).retryHint = c.hintAfter topic k) ∧
      ¬c.Changed topic last ∧
      ((∀ k ≤ last, ¬c.Changed topic k) → last = c.config.backoff.maxAttempts) := by
  have hends : ∃ last, c.EndsWith topic draw last (c.subscribeWithReconnect topic draw) :=
    c.endsWith_of_settled topic draw c.connectionBound 0 [] [] rfl rfl nofun hsettled
  obtain ⟨last, hlast⟩ := hends
  refine ⟨last, hlast, ?_, fun k => ?_, fun k => ?_, hlast.givesUp.not_changed, fun hnone => ?_⟩
  · rw [hlast.client, (c.received_nth topic (last + 1)).2]
  · unfold requestAt request setLastEventId resumption
    simp
  · exact ⟨(c.nth_fields topic k).2.2.1, (c.nth_fields topic (k + 1)).2.2.2⟩
  · obtain ⟨hsome, hmany⟩ := hlast.givesUp
    rw [c.streak_of_not_changed topic last hnone] at hmany
    by_contra hne
    have hearlier : c.config.backoff.maxAttempts < last := by omega
    refine hlast.goesOn _ hearlier ⟨hsome, ?_⟩
    rw [c.streak_of_not_changed topic _ fun k hk => hnone k (by omega)]
    omega

end

/-- Refused before and after a connection that delivers the id 1. -/
def refusedAround : Client := impatientClient [.refusal, numberedReply]

/-- The third connection is the last, and it asks for what follows the id. -/
theorem reconnects_until_giving_up_around :
    (refusedAround.subscribeWithReconnect "t" fun _ => 1).outcome = .failed .transport ∧
      (refusedAround.subscribeWithReconnect "t" fun _ => 1).slept.length = 2 ∧
      (refusedAround.subscribeWithReconnect "t" fun _ => 1).client.peer.received.map
        (·.headers.drop 2) = [[], [], [⟨"last-event-id", [49]⟩]] := by
  have houtcome : (refusedAround.subscribeWithReconnect "t" fun _ => 1).outcome =
      .failed .transport := by
    decide +kernel
  obtain ⟨last, hlast, hreceived, _⟩ := reconnects_until_giving_up refusedAround "t" (fun _ => 1)
    (by rw [houtcome]; exact ⟨nofun, nofun⟩)
  have hthird : refusedAround.GivesUp "t" 2 := by decide +kernel
  have hearlier : ∀ k < 2, ¬refusedAround.GivesUp "t" k := by decide +kernel
  obtain rfl : last = 2 := by
    rcases Nat.lt_trichotomy last 2 with hlt | heq | hgt
    · exact absurd hlast.givesUp (hearlier last hlt)
    · exact heq
    · exact absurd hthird (hlast.goesOn 2 hgt)
  refine ⟨houtcome, ?_, ?_⟩
  · have hslept := congrArg List.length hlast.slept
    rwa [List.length_map, List.length_map, List.length_range] at hslept
  · rw [hreceived]
    decide +kernel

end Client

end EventBroker
