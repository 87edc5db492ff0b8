import EventBroker.Proofs.Client.Attempt
import Mathlib.Data.List.Basic

/-!
The connections of a client that reconnects, as a row in which each follows from the one before;
what reconnecting gives is read off the row. The delays grow with the number of connections
since the last one that made progress, and when there are as many as the policy allows the
row ends. A connection whose events carry no new id makes no progress.
-/
namespace EventBroker.Client

open EventBroker.Frame

namespace Attempt

variable (topic : String) (draw : Nat → Float)

def row : Nat → Attempt → List Attempt
  | 0, _ => []
  | fuel + 1, a =>
    a :: match a.advance topic draw with
      | .error _ => []
      | .ok (_, next) => row fuel next

def delay? (a : Attempt) : Option Duration :=
  match a.advance topic draw with
  | .error _ => none
  | .ok (delay, _) => some delay

def ending (a : Attempt) : Outcome :=
  match a.advance topic draw with
  | .error outcome => outcome
  | .ok _ => .waiting

theorem row_succ_error (fuel : Nat) (a : Attempt) (outcome : Outcome)
    (h : a.advance topic draw = .error outcome) : row topic draw (fuel + 1) a = [a] := by
  rw [row, h]

theorem row_succ_ok (fuel : Nat) (a b : Attempt) (delay : Duration)
    (h : a.advance topic draw = .ok (delay, b)) :
    row topic draw (fuel + 1) a = a :: row topic draw fuel b := by
  rw [row, h]

/-- The attempts of a row follow one another. -/
theorem row_cons (fuel : Nat) (a x : Attempt) (rest : List Attempt)
    (h : row topic draw fuel a = x :: rest) :
    x = a ∧ (rest = [] ∨ ∃ fuel' delay b, a.advance topic draw = .ok (delay, b) ∧
      row topic draw fuel' b = rest) := by
  cases fuel with
  | zero => cases h
  | succ fuel =>
    cases hadvance : a.advance topic draw with
    | error outcome =>
      rw [row_succ_error topic draw fuel a outcome hadvance] at h
      cases h
      exact ⟨rfl, .inl rfl⟩
    | ok next =>
      obtain ⟨delay, b⟩ := next
      rw [row_succ_ok topic draw fuel a b delay hadvance] at h
      cases h
      exact ⟨rfl, .inr ⟨fuel, delay, b, rfl, rfl⟩⟩

/-- An attempt in a row starts a row of its own. -/
theorem row_split (fuel : Nat) (a x : Attempt) (front rest : List Attempt)
    (h : row topic draw fuel a = front ++ x :: rest) :
    (front = [] → x = a) ∧ x.waits = a.waits + front.length ∧
      x.client.config = a.client.config ∧ ∃ fuel', row topic draw fuel' x = x :: rest := by
  induction front generalizing fuel a with
  | nil =>
    obtain ⟨rfl, _⟩ := row_cons topic draw fuel a x rest h
    exact ⟨fun _ => rfl, rfl, rfl, fuel, h⟩
  | cons y front ih =>
    obtain ⟨rfl, hnil | ⟨fuel', delay, b, hadvance, hrow⟩⟩ := row_cons topic draw fuel a y _ h
    · cases front <;> cases hnil
    · obtain ⟨_, hwaits, hconfig, hrest⟩ := ih fuel' b hrow
      obtain ⟨_, _, hstep, hkept⟩ := next_eq topic draw y b delay hadvance
      refine ⟨nofun, ?_, hconfig.trans hkept, hrest⟩
      rw [hwaits, hstep, List.length_cons]
      omega

/-- Each further connection without progress adds one to the count. -/
theorem fruitless_last (fuel : Nat) (a b : Attempt) (more back : List Attempt)
    (h : row topic draw fuel a = a :: more ++ back)
    (hmore : ∀ x ∈ more, ¬x.Progress topic) (hlast : (a :: more).getLast? = some b) :
    b.fruitless topic = a.fruitless topic + more.length ∧ b.waits = a.waits + more.length ∧
      b.client.config = a.client.config := by
  induction more generalizing fuel a with
  | nil =>
    obtain rfl := Option.some.inj hlast
    exact ⟨rfl, rfl, rfl⟩
  | cons x more ih =>
    obtain ⟨_, hnil | ⟨fuel', delay, next, hadvance, hrow⟩⟩ := row_cons topic draw fuel a a _ h
    · cases hnil
    · obtain ⟨rfl, _⟩ := row_cons topic draw fuel' next x _ hrow
      obtain ⟨_, hcount, hstep, hkept⟩ := next_eq topic draw a x delay hadvance
      have hx : x.fruitless topic = a.fruitless topic + 1 := by
        rw [fruitless, if_neg (hmore x List.mem_cons_self), hcount]
      rw [List.getLast?_cons_cons] at hlast
      obtain ⟨hfruitless, hwaits, hconfig⟩ := ih fuel' x hrow
        (fun y hy => hmore y (List.mem_cons_of_mem x hy)) hlast
      refine ⟨?_, ?_, hconfig.trans hkept⟩
      · rw [hfruitless, hx, List.length_cons]
        omega
      · rw [hwaits, hstep, List.length_cons]
        omega

def bound (a : Attempt) : Nat :=
  a.client.peer.script.length * (a.client.config.backoff.maxAttempts + 1) +
    (a.client.config.backoff.maxAttempts + 1 - a.count)

/-- A connection that another one follows lowers the bound: progress takes a reply, and without
progress the count rises. -/
theorem bound_lt (a b : Attempt) (delay : Duration) (h : a.advance topic draw = .ok (delay, b))
    (hmax : a.client.config.backoff.maxAttempts ≠ 0)
    (hcount : a.count ≤ a.client.config.backoff.maxAttempts) :
    b.bound < a.bound ∧ b.count ≤ b.client.config.backoff.maxAttempts := by
  obtain ⟨hclient, hnext, _, hconfig⟩ := next_eq topic draw a b delay h
  have hfew := (fruitless_lt topic draw a b delay h).resolve_left hmax
  obtain ⟨hle, hlt⟩ := a.script_after topic
  unfold bound
  rw [hconfig, hnext, hclient]
  set limit := a.client.config.backoff.maxAttempts
  set before := a.client.peer.script.length
  set later := (a.after topic).peer.script.length
  refine ⟨?_, hfew⟩
  by_cases hprogress : a.Progress topic
  · have hreply : (later + 1) * (limit + 1) ≤ before * (limit + 1) :=
      Nat.mul_le_mul_right _ (hlt hprogress)
    rw [Nat.succ_mul] at hreply
    omega
  · have hsame : a.fruitless topic = a.count := if_neg hprogress
    have hreply : later * (limit + 1) ≤ before * (limit + 1) := Nat.mul_le_mul_right _ hle
    omega

/-- Under a policy that gives up, a row ends by itself. -/
theorem row_bound (fuel extra : Nat) (a : Attempt)
    (hmax : a.client.config.backoff.maxAttempts ≠ 0)
    (hcount : a.count ≤ a.client.config.backoff.maxAttempts) (hfuel : a.bound ≤ fuel) :
    row topic draw (fuel + extra) a = row topic draw fuel a := by
  induction fuel generalizing a with
  | zero =>
    unfold bound at hfuel
    omega
  | succ fuel ih =>
    rw [Nat.add_right_comm]
    cases hadvance : a.advance topic draw with
    | error outcome =>
      rw [row_succ_error topic draw _ a outcome hadvance,
        row_succ_error topic draw _ a outcome hadvance]
    | ok next =>
      obtain ⟨delay, b⟩ := next
      obtain ⟨hlt, hnext⟩ := bound_lt topic draw a b delay hadvance hmax hcount
      obtain ⟨_, _, _, hconfig⟩ := next_eq topic draw a b delay hadvance
      rw [row_succ_ok topic draw _ a b delay hadvance, row_succ_ok topic draw _ a b delay hadvance,
        ih b (by rwa [hconfig]) hnext (by omega)]

end Attempt

def Reconnected.behind (r : Reconnected) (events : List Event) (slept : List Duration) :
    Reconnected :=
  { r with events := events ++ r.events, slept := slept ++ r.slept }

section
variable (topic : String) (draw : Nat → Float)

def summary (c : Client) (made : List Attempt) : Reconnected :=
  { client := (made.getLast?.map (·.after topic)).getD c
    events := made.flatMap (·.delivered topic)
    slept := made.filterMap (·.delay? topic draw)
    outcome := (made.getLast?.map (·.ending topic draw)).getD .waiting }

theorem summary_cons (c : Client) (a b : Attempt) (delay : Duration) (rest : List Attempt)
    (h : a.advance topic draw = .ok (delay, b)) :
    summary topic draw c (a :: rest) =
      (summary topic draw b.client rest).behind (a.delivered topic) [delay] := by
  have hdelay : a.delay? topic draw = some delay := by rw [Attempt.delay?, h]
  have hending : a.ending topic draw = .waiting := by rw [Attempt.ending, h]
  obtain ⟨hclient, _⟩ := a.next_eq topic draw b delay h
  unfold summary Reconnected.behind
  rw [List.flatMap_cons, List.filterMap_cons_some hdelay, List.getLast?_cons, hclient]
  cases rest.getLast? with
  | none =>
    simp only [Option.getD_none, Option.map_some, Option.map_none, Option.getD_some, hending,
      List.singleton_append]
  | some x => rfl

theorem summary_last (c : Client) (a : Attempt) (outcome : Outcome)
    (h : a.advance topic draw = .error outcome) :
    summary topic draw c [a] =
      { client := a.after topic, events := a.delivered topic, slept := [], outcome } := by
  have hdelay : a.delay? topic draw = none := by rw [Attempt.delay?, h]
  have hending : a.ending topic draw = outcome := by rw [Attempt.ending, h]
  unfold summary
  rw [List.flatMap_singleton, List.filterMap_cons_none hdelay, ← hending]
  rfl

/-- A round of reconnecting: the end, or another round after a delay. -/
theorem reconnectWithin_succ (fuel : Nat) (a : Attempt) (events : List Event)
    (slept : List Duration) (hslept : slept.length = a.waits) :
    reconnectWithin topic draw (fuel + 1) a.count events slept a.client =
      match a.advance topic draw with
      | .error outcome =>
        { client := a.after topic, events := events ++ a.delivered topic, slept, outcome }
      | .ok (delay, b) =>
        reconnectWithin topic draw fuel b.count (events ++ a.delivered topic) (slept ++ [delay])
          b.client := by
  rw [reconnectWithin, hslept]
  unfold Attempt.advance Attempt.after Attempt.delivered
  rcases a.client.subscribe topic with ⟨c, delivered, outcome⟩
  cases outcome with
  | waiting => rfl
  | ended | failed fault =>
    simp only
    rcases c.nextAttempt a.client.lastEventId a.count (draw a.waits) with
      ⟨count, _ | cause | delay⟩ <;> rfl

/-- What reconnecting gives is read off its row. -/
theorem reconnectWithin_eq (fuel : Nat) (a : Attempt) (events : List Event)
    (slept : List Duration) (hslept : slept.length = a.waits) :
    reconnectWithin topic draw fuel a.count events slept a.client =
      (summary topic draw a.client (a.row topic draw fuel)).behind events slept := by
  induction fuel generalizing a events slept with
  | zero => simp [reconnectWithin, summary, Attempt.row, Reconnected.behind]
  | succ fuel ih =>
    rw [reconnectWithin_succ topic draw fuel a events slept hslept]
    cases hadvance : a.advance topic draw with
    | error outcome =>
      rw [a.row_succ_error topic draw fuel outcome hadvance,
        summary_last topic draw _ a outcome hadvance]
      simp only [Reconnected.behind, List.append_nil]
    | ok next =>
      obtain ⟨delay, b⟩ := next
      obtain ⟨_, _, hwaits, _⟩ := a.next_eq topic draw b delay hadvance
      have hlength : (slept ++ [delay]).length = b.waits := by
        rw [List.length_append, hslept, hwaits]
        rfl
      rw [a.row_succ_ok topic draw fuel b delay hadvance,
        summary_cons topic draw _ a b delay _ hadvance]
      simp only [ih b _ _ hlength, Reconnected.behind, List.append_assoc]

/-- With enough fuel, what reconnecting gives does not depend on it. -/
theorem reconnectWithin_of_bound (c : Client) (fuel : Nat)
    (hmax : c.config.backoff.maxAttempts ≠ 0) (hfuel : c.connectionBound ≤ fuel) :
    reconnectWithin topic draw fuel 0 [] [] c = c.subscribeWithReconnect topic draw := by
  have hbound : ({ client := c } : Attempt).bound = c.connectionBound := by
    unfold Attempt.bound connectionBound
    rw [Nat.succ_mul]
    rfl
  obtain ⟨extra, rfl⟩ := Nat.exists_eq_add_of_le hfuel
  have hrow := Attempt.row_bound topic draw c.connectionBound extra { client := c } hmax
    (Nat.zero_le _) hbound.le
  have hlong := reconnectWithin_eq topic draw (c.connectionBound + extra) { client := c } [] [] rfl
  have hshort := reconnectWithin_eq topic draw c.connectionBound { client := c } [] [] rfl
  rw [hrow] at hlong
  exact hlong.trans hshort.symm

def connections (c : Client) (fuel : Nat) : List Attempt :=
  ({ client := c } : Attempt).row topic draw fuel

/-- What follows a connection is decided by the number of connections behind the last one that made
progress, or behind the first: while the policy allows it a delay that goes by this number, then
the end. A connection makes progress if the last id that it delivers is not the remembered one, so
none if it delivers nothing. -/
theorem counts_since_progress (c : Client) :
    (∀ fuel, reconnectWithin topic draw fuel 0 [] [] c =
      summary topic draw c (c.connections topic draw fuel)) ∧
    (∀ fuel, c.config.backoff.maxAttempts ≠ 0 → c.connectionBound ≤ fuel →
      c.subscribeWithReconnect topic draw =
        summary topic draw c (c.connections topic draw fuel)) ∧
    (∀ a : Attempt, (∀ e ∈ a.delivered topic, e.id = []) → ¬a.Progress topic) ∧
    (∀ (a : Attempt) front e back, a.delivered topic = front ++ e :: back → e.id ≠ [] →
      (∀ x ∈ back, x.id = []) → (a.Progress topic ↔ e.id ≠ a.client.lastEventId)) ∧
    ∀ fuel front a more back b, c.connections topic draw fuel = front ++ a :: more ++ back →
      (front = [] ∨ a.Progress topic) → (∀ x ∈ more, ¬x.Progress topic) →
      (a :: more).getLast? = some b →
      (b.advance topic draw).map (·.1) =
        b.verdict topic c.config.backoff more.length (draw (front.length + more.length)) := by
  have hgives : ∀ fuel, reconnectWithin topic draw fuel 0 [] [] c =
      summary topic draw c (c.connections topic draw fuel) :=
    fun fuel => reconnectWithin_eq topic draw fuel { client := c } [] [] rfl
  refine ⟨hgives, ?_, fun a => a.not_progress_of_nil topic,
    fun a => a.progress_iff_last topic, ?_⟩
  · intro fuel hmax hfuel
    rw [← reconnectWithin_of_bound topic draw c fuel hmax hfuel, hgives]
  · intro fuel front a more back b hrow hstart hmore hlast
    rw [connections, List.append_assoc] at hrow
    obtain ⟨hfirst, hwaits, hconfig, fuel', hrest⟩ :=
      Attempt.row_split topic draw fuel _ a front (more ++ back) hrow
    obtain ⟨hfruitless, hlater, hkept⟩ :=
      Attempt.fruitless_last topic draw fuel' a b more back hrest hmore hlast
    have hnone : a.fruitless topic = 0 := by
      unfold Attempt.fruitless
      split
      · rfl
      · next hprogress => rw [hfirst (hstart.resolve_right hprogress)]
    rw [b.advance_eq, hkept, hconfig, hfruitless, hnone, hlater, hwaits, Nat.zero_add,
      Nat.zero_add]
    cases b.verdict topic c.config.backoff more.length (draw (front.length + more.length)) <;> rfl

end

/-- A client that gives up at the first connection without progress after another one. -/
def impatientClient (script : List Answer) : Client :=
  { config := { backoff := { maxAttempts := 1 } }
    url := { scheme := "http", host := some "localhost" }
    peer := { script } }

/-- Its connections, refused first, with the delays not varied. -/
def impatientRow (script : List Answer) : List Attempt :=
  (impatientClient (.refusal :: script)).connections "t" (fun _ => 1) 4

def numberedReply : Answer := .response { chunks := [Bytes.ofString "id: 1\ndata: x\n\n"] }

def plainReply : Answer := .response { chunks := [Bytes.ofString "data: x\n\n"] }

/-- After a refusal the second connection makes progress, and the third is refused and the last. -/
theorem counts_since_progress_once :
    ∃ a b d, impatientRow [numberedReply] = [a, b, d] ∧ b.Progress "t" ∧ ¬d.Progress "t" ∧
      ((b.advance "t" fun _ => 1).map (·.1)).isOk = true ∧
      ((d.advance "t" fun _ => 1).map (·.1)).isOk = false := by
  have hlength : (impatientRow [numberedReply]).length = 3 := by decide +kernel
  have hsecond : ∀ x ∈ ((impatientRow [numberedReply]).drop 1).take 1, x.Progress "t" ∧
      (x.verdict "t" (impatientClient []).config.backoff 0 1).isOk = true := by decide +kernel
  have hthird : ∀ x ∈ (impatientRow [numberedReply]).drop 2, ¬x.Progress "t" ∧
      (x.verdict "t" (impatientClient []).config.backoff 1 1).isOk = false := by decide +kernel
  obtain ⟨a, b, d, hmade⟩ := List.length_eq_three.mp hlength
  rw [hmade] at hsecond hthird
  obtain ⟨hprogress, hgoes⟩ := hsecond b List.mem_cons_self
  obtain ⟨hnone, hends⟩ := hthird d List.mem_cons_self
  obtain ⟨_, _, _, _, hcounts⟩ := counts_since_progress "t" (fun _ => 1)
    (impatientClient [.refusal, numberedReply])
  refine ⟨a, b, d, hmade, hprogress, hnone, ?_, ?_⟩
  · have hdelay := hcounts 4 [a] b [] [d] b hmade (.inr hprogress)
      (fun _ hx => absurd hx List.not_mem_nil) rfl
    rw [hdelay]
    exact hgoes
  · have hend := hcounts 4 [a] b [d] [] d hmade (.inr hprogress) (by simpa using hnone) rfl
    rw [hend]
    exact hends

/-- It is not so that each event delivered starts the count again: one without an id does not. -/
theorem counts_despite_delivery :
    ¬∀ (c : Client) (topic : String) (draw : Nat → Float) (fuel : Nat) (front : List Attempt)
      (a : Attempt) (more back : List Attempt) (b : Attempt),
      c.connections topic draw fuel = front ++ a :: more ++ back →
      (front = [] ∨ a.delivered topic ≠ []) → (∀ x ∈ more, x.delivered topic = []) →
      (a :: more).getLast? = some b →
      (b.advance topic draw).map (·.1) =
        b.verdict topic c.config.backoff more.length (draw (front.length + more.length)) := by
  intro hall
  have hlength : (impatientRow [plainReply]).length = 2 := by decide +kernel
  have hsecond : ∀ x ∈ (impatientRow [plainReply]).drop 1, x.delivered "t" ≠ [] ∧
      ((x.advance "t" fun _ => 1).map (·.1)).isOk = false ∧
      (x.verdict "t" (impatientClient []).config.backoff 0 1).isOk = true := by decide +kernel
  obtain ⟨a, b, hmade⟩ := List.length_eq_two.mp hlength
  rw [hmade] at hsecond
  obtain ⟨hdelivered, hends, hgoes⟩ := hsecond b List.mem_cons_self
  have hsame := hall (impatientClient [.refusal, plainReply]) "t" (fun _ => 1) 4 [a] b [] [] b hmade
    (.inr hdelivered) (fun _ hx => absurd hx List.not_mem_nil) rfl
  rw [hsame] at hends
  exact Bool.false_ne_true (hends.symm.trans hgoes)

end EventBroker.Client
