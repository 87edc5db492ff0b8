import EventBroker.Proofs.Client.Reading

/-!
The events of a connection in a row. A reader hands them out one by one, and subscribing handles
them chunk by chunk: both follow the row that the chunks complete up to the first call
that fails, and come out as what stands behind it.
-/
namespace EventBroker

def Ending.outcome : Ending → Outcome
  | .clean => .ended
  | .broken => .failed .transport
  | .silent => .waiting

namespace Reader

/-- The events that chunks complete up to the first call that fails, and how reading comes out. -/
def completes (ending : Ending) (d : Frame.Decoder) : List Bytes → List Event × Outcome
  | [] => ([], ending.outcome)
  | chunk :: rest =>
    match d.decode chunk with
    | (_, .error fault) => ([], .failed (.protocol fault))
    | (d', .ok events) => (events ++ (completes ending d' rest).1, (completes ending d' rest).2)

def ahead (r : Reader) : List Event × Outcome :=
  (r.ready ++ (completes r.ending r.decoder r.chunks).1, (completes r.ending r.decoder r.chunks).2)

/-- What a reader finds is the next of the events ahead of it, or how it comes out if there is
none. -/
inductive Finds (r : Reader) (r' : Reader) : Next → Prop
  | event (e : Event) (hahead : r.ahead = (e :: r'.ahead.1, r'.ahead.2)) : Finds r r' (.event e)
  | ended (hahead : r.ahead = ([], .ended)) : Finds r r' .ended
  | failed (fault : ClientFault) (hahead : r.ahead = ([], .failed fault)) :
    Finds r r' (.failed fault)
  | silence (hahead : r.ahead = ([], .waiting)) : Finds r r' .silence

/-- What is found depends on the events ahead only. -/
theorem Finds.of_ahead_eq {r₁ r₂ r' : Reader} {next : Next} (hsame : r₁.ahead = r₂.ahead)
    (h : r₂.Finds r' next) : r₁.Finds r' next := by
  cases h with
  | event e hahead => exact .event e (hsame.trans hahead)
  | ended hahead => exact .ended (hsame.trans hahead)
  | failed fault hahead => exact .failed fault (hsame.trans hahead)
  | silence hahead => exact .silence (hsame.trans hahead)

theorem finds_pull (ending : Ending) (d : Frame.Decoder) (chunks : List Bytes) :
    Finds { decoder := d, chunks, ending } (pull ending d chunks).1 (pull ending d chunks).2 := by
  induction chunks generalizing d with
  | nil =>
    cases ending with
    | clean => exact .ended rfl
    | broken => exact .failed .transport rfl
    | silent => exact .silence rfl
  | cons chunk rest ih =>
    rcases hdecode : d.decode chunk with ⟨d', fault | _ | ⟨e, ready⟩⟩
    · simp only [pull, hdecode]
      exact .failed _ (by simp only [ahead, completes, hdecode, List.append_nil])
    · have hsame : ({ decoder := d, chunks := chunk :: rest, ending } : Reader).ahead =
          ({ decoder := d', chunks := rest, ending } : Reader).ahead := by
        simp only [ahead, completes, hdecode, List.nil_append]
      simp only [pull, hdecode]
      exact .of_ahead_eq hsame (ih d')
    · simp only [pull, hdecode]
      exact .event e (by simp only [ahead, completes, hdecode, List.nil_append, List.cons_append])

theorem finds_next (r : Reader) : r.Finds r.next.1 r.next.2 := by
  obtain ⟨decoder, ready, chunks, ending⟩ := r
  cases ready with
  | nil => exact finds_pull ending decoder chunks
  | cons e ready => exact .event e rfl

end Reader

namespace Client

/-- Subscribing handles the events of a row one after another. -/
theorem readChunks_eq (ending : Ending) (d : Frame.Decoder) (state : Client × List Event)
    (chunks : List Bytes) :
    readChunks ending d state chunks =
      ((Reader.completes ending d chunks).1.foldl handle state,
        (Reader.completes ending d chunks).2) := by
  induction chunks generalizing d state with
  | nil => cases ending <;> rfl
  | cons chunk rest ih =>
    rcases hdecode : d.decode chunk with ⟨d', fault | events⟩
    · simp only [readChunks, Reader.completes, hdecode, List.foldl_nil]
    · simp only [readChunks, Reader.completes, hdecode, List.foldl_append]
      exact ih d' (events.foldl handle state)

def suggested (before : Option Duration) (events : List Event) : Option Duration :=
  events.foldl (fun hint e => e.retry.or hint) before

theorem suggested_append (before : Option Duration) (front back : List Event) :
    suggested before (front ++ back) = suggested (suggested before front) back :=
  List.foldl_append

theorem suggested_concat (before : Option Duration) (events : List Event) (e : Event) :
    suggested before (events ++ [e]) = e.retry.or (suggested before events) := by
  simp [suggested]

theorem remembered_concat (before : Bytes) (events : List Event) (e : Event) :
    remembered before (events ++ [e]) =
      if e.hasData && !e.id.isEmpty then e.id else remembered before events := by
  simp [remembered]

theorem noteRetry_eq (c : Client) (e : Event) :
    c.noteRetry e = { c with retryHint := e.retry.or c.retryHint } := by
  unfold noteRetry
  cases e.retry <;> rfl

theorem noteDelivered_eq (c : Client) (id : Bytes) :
    c.noteDelivered id = { c with lastEventId := if id.isEmpty then c.lastEventId else id } := by
  unfold noteDelivered
  split <;> rfl

/-- Handling an event changes what the client remembers and nothing else about it. -/
theorem handle_client (state : Client × List Event) (e : Event) :
    (handle state e).1 = { state.1 with
      lastEventId := if e.hasData && !e.id.isEmpty then e.id else state.1.lastEventId
      retryHint := e.retry.or state.1.retryHint } := by
  unfold handle
  simp only [noteRetry_eq, noteDelivered_eq]
  cases e.hasData <;> cases e.id.isEmpty <;> rfl

theorem foldl_handle_client (events : List Event) (state : Client × List Event) :
    (events.foldl handle state).1 = { state.1 with
      lastEventId := remembered state.1.lastEventId events
      retryHint := suggested state.1.retryHint events } := by
  induction events generalizing state with
  | nil => rfl
  | cons e events ih =>
    rw [List.foldl_cons, ih, handle_client]
    rfl

/-- A subscribing client once it has handled the first `n` events of its connection, and the
events handed to its consumer by then. -/
def midway (c : Client) (topic : String) (n : Nat) : Client × List Event :=
  match c.connect (some topic) with
  | (opened, .error _) => (opened, [])
  | (opened, .ok reader) =>
    let state := (reader.ahead.1.take n).foldl handle (opened, [])
    (state.1, state.2.reverse)

section
variable (c opened : Client) (topic : String) (reader : Reader)
  (h : c.connect (some topic) = (opened, .ok reader))
include h

theorem connect_ready : reader.ready = [] := by
  unfold connect at h
  split at h
  · cases h
  · simp only at h
    split at h
    · cases h
      rfl
    · cases h

theorem midway_of_connect (n : Nat) :
    (c.midway topic n).1.lastEventId = remembered opened.lastEventId (reader.ahead.1.take n) ∧
      (c.midway topic n).1.retryHint = suggested opened.retryHint (reader.ahead.1.take n) ∧
      (c.midway topic n).2 = (reader.ahead.1.take n).filter (·.hasData) := by
  obtain ⟨hid, _, hdelivered⟩ := foldl_handle (reader.ahead.1.take n) (opened, [])
  have hhint := congrArg (·.retryHint) (foldl_handle_client (reader.ahead.1.take n) (opened, []))
  unfold midway
  rw [h]
  refine ⟨hid, hhint, ?_⟩
  simp only [hdelivered, List.append_nil, List.reverse_reverse]

/-- As many events with data as some first ones of the connection have are just those. -/
theorem midway_of_length (front : List Event) (hfront : front <+: reader.ahead.1) (n : Nat)
    (hlength : (c.midway topic n).2.length = (front.filter (·.hasData)).length) :
    (c.midway topic n).2 = front.filter (·.hasData) ∧
      (c.midway topic n).1.lastEventId = remembered opened.lastEventId front := by
  obtain ⟨hid, _, hdelivered⟩ := c.midway_of_connect opened topic reader h n
  have htake : (c.midway topic n).2 <+: reader.ahead.1.filter (·.hasData) := by
    rw [hdelivered]
    exact (List.take_prefix n _).filter _
  have hsame : (c.midway topic n).2 = front.filter (·.hasData) :=
    (List.prefix_of_prefix_length_le htake (hfront.filter _) hlength.le).eq_of_length hlength
  refine ⟨hsame, ?_⟩
  rw [hid, ← remembered_filter, ← hdelivered, hsame, remembered_filter]

/-- Subscribing handles all events of its connection and comes out as the reader does. -/
theorem subscribe_eq_midway (n : Nat) (hn : reader.ahead.1.length ≤ n) :
    (c.subscribe topic).2.1 = (c.midway topic n).2 ∧
      (c.subscribe topic).1.lastEventId = (c.midway topic n).1.lastEventId ∧
      (c.subscribe topic).1.retryHint = (c.midway topic n).1.retryHint ∧
      (c.subscribe topic).2.2 = reader.ahead.2 := by
  have hahead : reader.ahead = Reader.completes reader.ending reader.decoder reader.chunks := by
    rw [Reader.ahead, c.connect_ready opened topic reader h, List.nil_append]
  obtain ⟨calls, hsubscribe⟩ := c.subscribe_of_connect opened topic reader h
  rw [hsubscribe, readChunks_eq, ← hahead, midway, h]
  simp only [List.take_of_length_le hn, and_self]

theorem subscribe_of_ahead :
    (c.subscribe topic).2.1 = reader.ahead.1.filter (·.hasData) ∧
      (c.subscribe topic).1.lastEventId = remembered opened.lastEventId reader.ahead.1 ∧
      (c.subscribe topic).1.retryHint = suggested opened.retryHint reader.ahead.1 ∧
      (c.subscribe topic).2.2 = reader.ahead.2 := by
  obtain ⟨hdelivered, hid, hhint, houtcome⟩ :=
    c.subscribe_eq_midway opened topic reader h _ (Nat.le_refl _)
  obtain ⟨hidₙ, hhintₙ, hdeliveredₙ⟩ :=
    c.midway_of_connect opened topic reader h reader.ahead.1.length
  rw [List.take_length] at hidₙ hhintₙ hdeliveredₙ
  exact ⟨hdelivered.trans hdeliveredₙ, hid.trans hidₙ, hhint.trans hhintₙ, houtcome⟩

end

end Client

end EventBroker
