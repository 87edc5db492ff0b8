import EventBroker.Proofs.Client.Refusal
import EventBroker.Proofs.Client.Yield

/-!
What a client keeps of a connection. Of a body that is never refused it handles the events of all
closed frames, however the body is cut and however it ends: those with data are delivered, the
last id among these is remembered, and the last delay is suggested that any of the events has.
A frame that the body leaves open counts for nothing.
-/
namespace EventBroker.Client

open EventBroker.Frame

/-- The events of the closed frames of a body, ahead of data that cannot be decoded. -/
def completeEvents (base64 : Bool) (body : Bytes) : List Event :=
  if base64 then intact (eventsOf body) else eventsOf body

theorem completeEvents_append_of_unclosed (base64 : Bool) (s t : Bytes)
    (ht : [] ∉ (cutLines t).dropLast) :
    completeEvents base64 (s ++ t) = completeEvents base64 s := by
  rw [completeEvents, completeEvents, eventsOf_append_of_unclosed s t ht]

def lastId? (delivered : List Event) : Option Bytes :=
  ((delivered.map (·.id)).filter (!·.isEmpty)).getLast?

def lastDelay? (events : List Event) : Option Duration := (events.filterMap (·.retry)).getLast?

theorem remembered_eq_lastId? (before : Bytes) (events : List Event) :
    remembered before events = (lastId? (events.filter (·.hasData))).getD before := by
  unfold lastId?
  induction events using List.reverseRecOn with
  | nil => rfl
  | append_singleton events e ih =>
    rw [remembered_concat, List.filter_append, List.map_append, List.filter_append, ih]
    cases hdata : e.hasData with
    | false => simp [hdata]
    | true =>
      cases hid : e.id.isEmpty with
      | true => simp [hdata, hid]
      | false => simp [hdata, hid]

theorem suggested_eq_lastDelay? (before : Option Duration) (events : List Event) :
    suggested before events = (lastDelay? events).or before := by
  unfold lastDelay?
  induction events using List.reverseRecOn with
  | nil => rfl
  | append_singleton events e ih =>
    rw [suggested_concat, List.filterMap_append, ih]
    cases hretry : e.retry with
    | none => simp [hretry]
    | some delay => simp [hretry]

/-- Calls that all succeed complete the events of their chunks, and reading comes out as the body
ends. -/
theorem completes_of_feed (ending : Ending) (d d' : Decoder) (chunks : List Bytes)
    (events : List Event) (h : d.feed chunks = .ok (d', events)) :
    Reader.completes ending d chunks = (events, ending.outcome) := by
  induction chunks generalizing d events with
  | nil =>
    cases h
    rfl
  | cons chunk rest ih =>
    obtain ⟨d₁, front, back, hdecode, hrest, rfl⟩ := Decoder.feed_cons_ok d chunk rest _ h
    simp only [Reader.completes, hdecode, ih d₁ back hrest]

/-- What a decoder completes of chunks that it does not refuse. -/
theorem feed_eq_completeEvents (limit : Nat) (base64 : Bool) (d : Decoder) (chunks : List Bytes)
    (events : List Event) (h : (Decoder.new limit base64).feed chunks = .ok (d, events)) :
    events = completeEvents base64 chunks.flatten := by
  have hscan := Decoder.scan_of_feed _ chunks _ (Decoder.settled_new limit base64) h
  cases base64 with
  | false =>
    obtain ⟨_, hplain⟩ := Decoder.scan_eq_eventsOf limit chunks.flatten
    exact (Prod.mk.inj (Except.ok.inj (hscan.symm.trans hplain))).2
  | true =>
    obtain ⟨_, hencoded⟩ := Decoder.scan_new_encoded limit chunks.flatten
    rw [hscan] at hencoded
    cases hfault : firstFault? (eventsOf chunks.flatten) with
    | none =>
      rw [hfault] at hencoded
      exact (Prod.mk.inj (Except.ok.inj hencoded)).2
    | some cause =>
      rw [hfault] at hencoded
      cases hencoded

def Accepts (c : Client) (r : Response) : Prop := (c.decoder.feed r.arriving).isOk = true

instance (c : Client) (r : Response) : Decidable (c.Accepts r) :=
  inferInstanceAs (Decidable (_ = true))

/-- What subscribing makes of a response that it accepts. -/
theorem subscribe_of_accepts (c : Client) (topic : String) (r : Response)
    (hr : r.isSuccess = true) (haccepts : c.Accepts r) (events : List Event)
    (hevents : completeEvents c.config.base64 r.arriving.flatten = events) :
    ((c.expecting r).subscribe topic).2.1 = events.filter (·.hasData) ∧
      ((c.expecting r).subscribe topic).1.lastEventId =
        (lastId? (events.filter (·.hasData))).getD c.lastEventId ∧
      ((c.expecting r).subscribe topic).1.retryHint = (lastDelay? events).or c.retryHint ∧
      ((c.expecting r).subscribe topic).2.2 = r.arrivingEnd.outcome := by
  obtain ⟨opened, hconnect, hid, hhint⟩ := c.connect_expecting (some topic) r hr
  have hahead : (c.reader r).ahead = (events, r.arrivingEnd.outcome) := by
    cases hfeed : c.decoder.feed r.arriving with
    | error fault =>
      rw [Accepts, hfeed] at haccepts
      cases haccepts
    | ok fed =>
      obtain ⟨d, found⟩ := fed
      rw [← hevents, ← feed_eq_completeEvents _ _ d _ found hfeed]
      exact completes_of_feed r.arrivingEnd c.decoder d r.arriving found hfeed
  obtain ⟨hdelivered, hlast, hretry, houtcome⟩ :=
    (c.expecting r).subscribe_of_ahead opened topic (c.reader r) hconnect
  rw [hahead] at hdelivered hlast hretry houtcome
  refine ⟨hdelivered, ?_, ?_, houtcome⟩
  · rw [hlast, hid, remembered_eq_lastId?]
  · rw [hretry, hhint, suggested_eq_lastDelay?]

/-- Of a response whose body it accepts, subscribing delivers the events with data of all closed
frames, in order, and comes out as the body ends. It remembers the last id that it delivered and
the last delay that any of the frames suggested, or what it had before. Another response
whose body is the same, or goes on with a frame that it leaves open, gives the same,
however both are cut and end. -/
theorem subscribe_keeps_complete_frames (c : Client) (topic : String) (r : Response)
    (hr : r.isSuccess = true) (haccepts : c.Accepts r) :
    ∃ events, completeEvents c.config.base64 r.arriving.flatten = events ∧
      ((c.expecting r).subscribe topic).2.1 = events.filter (·.hasData) ∧
      ((c.expecting r).subscribe topic).1.lastEventId =
        (lastId? ((c.expecting r).subscribe topic).2.1).getD c.lastEventId ∧
      ((c.expecting r).subscribe topic).1.retryHint = (lastDelay? events).or c.retryHint ∧
      ((c.expecting r).subscribe topic).2.2 = r.arrivingEnd.outcome ∧
      ∀ (r' : Response) (unclosed : Bytes), r'.isSuccess = true → c.Accepts r' →
        r'.arriving.flatten = r.arriving.flatten ++ unclosed →
        [] ∉ (cutLines unclosed).dropLast →
        ((c.expecting r').subscribe topic).2.1 = ((c.expecting r).subscribe topic).2.1 ∧
        ((c.expecting r').subscribe topic).1.lastEventId =
          ((c.expecting r).subscribe topic).1.lastEventId ∧
        ((c.expecting r').subscribe topic).1.retryHint =
          ((c.expecting r).subscribe topic).1.retryHint := by
  obtain ⟨hdelivered, hlast, hretry, houtcome⟩ :=
    c.subscribe_of_accepts topic r hr haccepts _ rfl
  refine ⟨_, rfl, hdelivered, ?_, hretry, houtcome, ?_⟩
  · rw [hlast, hdelivered]
  · intro r' unclosed hr' haccepts' hbody hunclosed
    have hevents := completeEvents_append_of_unclosed c.config.base64 r.arriving.flatten unclosed
      hunclosed
    rw [← hbody] at hevents
    obtain ⟨hdelivered', hlast', hretry', _⟩ :=
      c.subscribe_of_accepts topic r' hr' haccepts' _ hevents
    exact ⟨hdelivered'.trans hdelivered.symm, hlast'.trans hlast.symm, hretry'.trans hretry.symm⟩

/-- Behind an event with data a frame that only has an id and a delay. -/
def closedBody : Bytes := soundFrame ++ Bytes.ofString "id: 8\nretry: 5\n\n"

def unclosedFrame : Bytes := Bytes.ofString "id: 9\nretry: 6\ndata: aGk=\n"

/-- The connection breaks in the frame behind the two: what they gave is kept. -/
theorem subscribe_keeps_complete_frames_broken :
    ((encodedClient.expecting { chunks := [closedBody] }).subscribe "t").2.1 =
        [{ id := [55], data := Bytes.ofString "hi" }] ∧
      ((encodedClient.expecting { chunks := [closedBody] }).subscribe "t").1.lastEventId = [55] ∧
      ((encodedClient.expecting { chunks := [closedBody] }).subscribe "t").1.retryHint =
        some (.ofMillis 5) ∧
      ((encodedClient.expecting
        { chunks := [closedBody.take 9, closedBody.drop 9 ++ unclosedFrame],
          ending := .broken }).subscribe "t").1.retryHint = some (.ofMillis 5) := by
  obtain ⟨events, hevents, hdelivered, hid, hretry, _, hsame⟩ :=
    subscribe_keeps_complete_frames encodedClient "t" { chunks := [closedBody] } rfl
      (by decide +kernel)
  have hcomplete : completeEvents encodedClient.config.base64
      (Response.arriving { chunks := [closedBody] }).flatten =
        [{ id := [55], data := Bytes.ofString "hi" },
          { id := [56], retry := some (.ofMillis 5) }] := by
    decide +kernel
  rw [hcomplete] at hevents
  subst hevents
  have hbroken := hsame
    { chunks := [closedBody.take 9, closedBody.drop 9 ++ unclosedFrame], ending := .broken }
    unclosedFrame rfl (by decide +kernel) (by decide +kernel) (by decide +kernel)
  have hone : ((encodedClient.expecting { chunks := [closedBody] }).subscribe "t").2.1 =
      [{ id := [55], data := Bytes.ofString "hi" }] := by
    rw [hdelivered]
    decide +kernel
  refine ⟨hone, ?_, ?_, ?_⟩
  · rw [hid, hone]
    rfl
  · rw [hretry]
    rfl
  · rw [hbroken.2.2, hretry]
    rfl

end EventBroker.Client
