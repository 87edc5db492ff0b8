import EventBroker.Proofs.Client.Reading
import EventBroker.Proofs.Frame.Payload

/-!
What is delivered of a body with invalid data. Reading ends with the chunk that completes the
first such frame, and the call that refuses it keeps back the events of the same chunk: those
of the chunks before it are delivered, each once and in order. So where this chunk completes no
other event, the cuts do not matter, and everything before the invalid frame is delivered.
-/
namespace EventBroker.Client

open EventBroker.Frame

def expecting (c : Client) (r : Response) : Client :=
  { c with peer := { c.peer with reachable := true, script := .response r :: c.peer.script } }

/-- The events of a body in base64 that its first `n` chunks complete ahead of invalid data. -/
def completed (chunks : List Bytes) (n : Nat) : List Event :=
  intact (eventsOf (chunks.take n).flatten)

/-- Why the first frame with invalid data among those that the first `n` chunks complete is so. -/
def faultWithin? (chunks : List Bytes) (n : Nat) : Option Base64.Fault :=
  firstFault? (eventsOf (chunks.take n).flatten)

/-- The chunk that completes the first frame with invalid data completes no event with data
before it. -/
def EndsAlone (chunks : List Bytes) : Prop :=
  ∀ k < chunks.length, faultWithin? chunks k = none → faultWithin? chunks (k + 1) ≠ none →
    ∀ e ∈ (completed chunks (k + 1)).drop (completed chunks k).length, e.hasData = false

instance (chunks : List Bytes) : Decidable (EndsAlone chunks) := by
  unfold EndsAlone
  infer_instance

/-- Reading that ends at invalid data has handled the events of the chunks before. -/
theorem readChunks_of_base64 (ending : Ending) (chunks : List Bytes) (d : Decoder)
    (state : Client × List Event) (cause : Base64.Fault) (hd : d.Settled)
    (h : (readChunks ending d state chunks).2 = .failed (.protocol (.base64 cause))) :
    ∃ k < chunks.length, ∃ d' events,
      d.scan (chunks.take k).flatten = .ok (d', events) ∧
      d.scan (chunks.take (k + 1)).flatten = .error (.base64 cause) ∧
      (readChunks ending d state chunks).1 = events.foldl handle state := by
  induction chunks generalizing d state with
  | nil => cases ending <;> cases h
  | cons chunk rest ih =>
    rcases hdecode : d.decode chunk with ⟨d₁, fault | events⟩
    · simp only [readChunks, hdecode] at h ⊢
      cases h
      have hscan := Decoder.scan_of_base64 hd.toCaughtUp chunk cause (by rw [hdecode])
      refine ⟨0, Nat.zero_lt_succ _, d, [], rfl, ?_, rfl⟩
      simpa using hscan
    · have hscan := ((Decoder.decode_eq_ok_iff hd.toCaughtUp d₁ chunk events).mp hdecode).1
      simp only [readChunks, hdecode] at h ⊢
      obtain ⟨k, hk, d', later, hbefore, hfault, hstate⟩ :=
        ih d₁ (events.foldl handle state) (hd.decode d d₁ chunk events hdecode) h
      refine ⟨k + 1, Nat.succ_lt_succ hk, d', events ++ later, ?_, ?_, ?_⟩
      · rw [List.take_succ_cons, List.flatten_cons, Decoder.scan_append d d₁ chunk _ events hscan,
          hbefore, Decoder.prepend_ok]
      · rw [List.take_succ_cons, List.flatten_cons, Decoder.scan_append d d₁ chunk _ events hscan,
          hfault, Decoder.prepend_error]
      · rw [hstate, List.foldl_append]

/-- The response is opened, and what the client keeps is left as it was. -/
theorem connect_expecting (c : Client) (topic : Option String) (r : Response)
    (hr : r.isSuccess = true) :
    ∃ opened, (c.expecting r).connect topic = (opened, .ok (c.reader r)) ∧
      opened.lastEventId = c.lastEventId ∧ opened.retryHint = c.retryHint := by
  unfold connect expecting Peer.send
  simp only [Bool.not_true, Bool.false_eq_true, if_false, hr, if_true]
  refine ⟨_, rfl, ?_, ?_⟩
  · rw [call_eq]
  · rw [call_eq]

/-- What subscribing gives, in terms of reading the response. -/
theorem subscribe_expecting (c : Client) (topic : String) (r : Response)
    (hr : r.isSuccess = true) :
    ∃ opened : Client, opened.lastEventId = c.lastEventId ∧
      ((c.expecting r).subscribe topic).2.1 =
        (readChunks r.arrivingEnd c.decoder (opened, []) r.arriving).1.2.reverse ∧
      ((c.expecting r).subscribe topic).2.2 =
        (readChunks r.arrivingEnd c.decoder (opened, []) r.arriving).2 ∧
      ((c.expecting r).subscribe topic).1.lastEventId =
        (readChunks r.arrivingEnd c.decoder (opened, []) r.arriving).1.1.lastEventId := by
  obtain ⟨opened, hconnect, hid, _⟩ := c.connect_expecting (some topic) r hr
  obtain ⟨calls, hsubscribe⟩ := (c.expecting r).subscribe_of_connect opened topic _ hconnect
  rw [hsubscribe]
  exact ⟨opened, hid, rfl, rfl, rfl⟩

/-- The chunks of a longer beginning of a body complete more. -/
theorem eventsOf_take_succ (chunks : List Bytes) (k n : Nat) (hkn : k ≤ n) :
    ∃ later, eventsOf (chunks.take n).flatten = eventsOf (chunks.take k).flatten ++ later := by
  obtain ⟨m, rfl⟩ := Nat.exists_eq_add_of_le hkn
  rw [List.take_add, List.flatten_append]
  exact eventsOf_append _ _

/-- What subscribing delivers of a body in base64 that it cannot read to its end. -/
theorem subscribe_of_base64 (c : Client) (hbase64 : c.config.base64 = true) (topic : String)
    (r : Response) (hr : r.isSuccess = true) (cause : Base64.Fault)
    (h : ((c.expecting r).subscribe topic).2.2 = .failed (.protocol (.base64 cause))) :
    ∃ k < r.arriving.length, faultWithin? r.arriving k = none ∧
      faultWithin? r.arriving (k + 1) = some cause ∧
      ((c.expecting r).subscribe topic).2.1 = (completed r.arriving k).filter (·.hasData) ∧
      ((c.expecting r).subscribe topic).1.lastEventId =
        remembered c.lastEventId (completed r.arriving k) := by
  obtain ⟨opened, hid, hdelivered, houtcome, hlast⟩ := c.subscribe_expecting topic r hr
  have hdecoder : c.decoder = .new c.config.maxBufferSize true := by rw [decoder, hbase64]
  have hsettled : c.decoder.Settled := by
    rw [hdecoder]
    exact Decoder.settled_new _ _
  rw [houtcome] at h
  obtain ⟨k, hk, d, events, hbefore, hfault, hstate⟩ :=
    readChunks_of_base64 r.arrivingEnd r.arriving c.decoder (opened, []) cause hsettled h
  obtain ⟨d₁, hplain⟩ :=
    Decoder.scan_new_encoded c.config.maxBufferSize (r.arriving.take k).flatten
  obtain ⟨d₂, hbroken⟩ :=
    Decoder.scan_new_encoded c.config.maxBufferSize (r.arriving.take (k + 1)).flatten
  rw [← hdecoder, hbefore] at hplain
  rw [← hdecoder, hfault] at hbroken
  have hnone : faultWithin? r.arriving k = none ∧ events = completed r.arriving k := by
    unfold faultWithin? completed
    cases hfirst : firstFault? (eventsOf (r.arriving.take k).flatten) with
    | none =>
      rw [hfirst] at hplain
      cases hplain
      exact ⟨rfl, rfl⟩
    | some cause =>
      rw [hfirst] at hplain
      cases hplain
  have hsome : faultWithin? r.arriving (k + 1) = some cause := by
    unfold faultWithin?
    cases hfirst : firstFault? (eventsOf (r.arriving.take (k + 1)).flatten) with
    | none =>
      rw [hfirst] at hbroken
      cases hbroken
    | some cause' =>
      rw [hfirst] at hbroken
      cases hbroken
      rfl
  obtain ⟨hremembered, _, hhanded⟩ := foldl_handle events (opened, [])
  obtain ⟨hnone, rfl⟩ := hnone
  refine ⟨k, hk, hnone, hsome, ?_, ?_⟩
  · rw [hdelivered, hstate, hhanded, List.append_nil, List.reverse_reverse]
  · rw [hlast, hstate, hremembered, hid]

/-- What the whole body has ahead of invalid data. -/
theorem completed_of_fault (chunks : List Bytes) (k n : Nat) (hkn : k ≤ n) (cause : Base64.Fault)
    (h : faultWithin? chunks k = some cause) :
    faultWithin? chunks n = some cause ∧ completed chunks n = completed chunks k := by
  obtain ⟨later, hlater⟩ := eventsOf_take_succ chunks k n hkn
  unfold faultWithin? completed at *
  rw [hlater, firstFault?_append, intact_append, h]
  exact ⟨rfl, List.append_nil _⟩

theorem completed_of_none (chunks : List Bytes) (k n : Nat) (hkn : k ≤ n)
    (h : faultWithin? chunks k = none) :
    ∃ later, completed chunks n = completed chunks k ++ later := by
  obtain ⟨later, hlater⟩ := eventsOf_take_succ chunks k n hkn
  unfold faultWithin? completed at *
  rw [hlater, intact_append, if_pos h]
  exact ⟨_, rfl⟩

/-- Where the chunk with the invalid frame completes nothing else, nothing is missing. -/
theorem completed_of_endsAlone (chunks : List Bytes) (k : Nat) (hk : k < chunks.length)
    (cause : Base64.Fault) (hnone : faultWithin? chunks k = none)
    (hsome : faultWithin? chunks (k + 1) = some cause) (halone : EndsAlone chunks) :
    firstFault? (eventsOf chunks.flatten) = some cause ∧
      (completed chunks k).filter (·.hasData) =
        (intact (eventsOf chunks.flatten)).filter (·.hasData) ∧
      ∀ before, remembered before (completed chunks k) =
        remembered before (intact (eventsOf chunks.flatten)) := by
  obtain ⟨later, hlater⟩ := completed_of_none chunks k (k + 1) (Nat.le_succ k) hnone
  obtain ⟨hfault, hwhole⟩ := completed_of_fault chunks (k + 1) chunks.length hk cause hsome
  have hsilent : ∀ e ∈ later, e.hasData = false := by
    have hlost := halone k hk hnone (by rw [hsome]; exact nofun)
    rw [hlater, List.drop_left] at hlost
    exact hlost
  have hall : intact (eventsOf chunks.flatten) = completed chunks k ++ later := by
    rw [← hlater, ← hwhole, completed, List.take_length]
  have hempty : later.filter (·.hasData) = [] := by
    rw [List.filter_eq_nil_iff]
    intro e he
    rw [hsilent e he]
    exact Bool.false_ne_true
  refine ⟨?_, ?_, fun before => ?_⟩
  · rw [faultWithin?, List.take_length] at hfault
    exact hfault
  · rw [hall, List.filter_append, hempty, List.append_nil]
  · rw [hall, remembered_append, ← remembered_filter _ later, hempty]
    rfl

/-- A body in base64 with invalid data, however it is cut: if reading fails at the invalid data, the
events with data that the chunks before the failing one complete are delivered, and the last id
among them is remembered. Two cuts in which the failing chunk completes no other event with
data come to the same, which is everything ahead of the invalid frame. -/
theorem subscribe_delivers_before_fault (c : Client) (hbase64 : c.config.base64 = true)
    (topic : String) :
    (∀ (r : Response) (cause : Base64.Fault), r.isSuccess = true →
      ((c.expecting r).subscribe topic).2.2 = .failed (.protocol (.base64 cause)) →
      ∃ k < r.arriving.length, faultWithin? r.arriving k = none ∧
        faultWithin? r.arriving (k + 1) = some cause ∧
        ((c.expecting r).subscribe topic).2.1 = (completed r.arriving k).filter (·.hasData) ∧
        ((c.expecting r).subscribe topic).1.lastEventId =
          remembered c.lastEventId (completed r.arriving k)) ∧
    ∀ (r r' : Response) (cause cause' : Base64.Fault), r.isSuccess = true → r'.isSuccess = true →
      r.arriving.flatten = r'.arriving.flatten →
      ((c.expecting r).subscribe topic).2.2 = .failed (.protocol (.base64 cause)) →
      ((c.expecting r').subscribe topic).2.2 = .failed (.protocol (.base64 cause')) →
      EndsAlone r.arriving → EndsAlone r'.arriving →
      cause = cause' ∧
        ((c.expecting r).subscribe topic).2.1 = ((c.expecting r').subscribe topic).2.1 ∧
        ((c.expecting r).subscribe topic).1.lastEventId =
          ((c.expecting r').subscribe topic).1.lastEventId ∧
        ((c.expecting r).subscribe topic).2.1 =
          (intact (eventsOf r.arriving.flatten)).filter (·.hasData) := by
  refine ⟨fun r cause hr h => c.subscribe_of_base64 hbase64 topic r hr cause h, ?_⟩
  intro r r' cause cause' hr hr' hbody h h' halone halone'
  obtain ⟨k, hk, hnone, hsome, hdelivered, hlast⟩ :=
    c.subscribe_of_base64 hbase64 topic r hr cause h
  obtain ⟨k', hk', hnone', hsome', hdelivered', hlast'⟩ :=
    c.subscribe_of_base64 hbase64 topic r' hr' cause' h'
  obtain ⟨hfault, hall, hids⟩ := completed_of_endsAlone _ k hk cause hnone hsome halone
  obtain ⟨hfault', hall', hids'⟩ := completed_of_endsAlone _ k' hk' cause' hnone' hsome' halone'
  rw [← hbody] at hfault' hall' hids'
  refine ⟨?_, ?_, ?_, ?_⟩
  · exact Option.some.inj (hfault.symm.trans hfault')
  · rw [hdelivered, hdelivered', hall, hall']
  · rw [hlast, hlast', hids, hids']
  · rw [hdelivered, hall]

def encodedClient : Client :=
  { config := { base64 := true }, url := { scheme := "http", host := some "localhost" } }

/-- An event with the id 7, and one whose data is invalid. -/
def soundFrame : Bytes := Bytes.ofString "id: 7\ndata: aGk=\n\n"

def invalidFrame : Bytes := Bytes.ofString "data: !\n\n"

/-- The first event is delivered wherever a cut comes between the frames. -/
theorem subscribe_delivers_before_fault_apart :
    EndsAlone [soundFrame, invalidFrame] ∧ EndsAlone [soundFrame ++ [100], invalidFrame.tail] ∧
      ((encodedClient.expecting { chunks := [soundFrame, invalidFrame] }).subscribe "t").2.1 =
        ((encodedClient.expecting
          { chunks := [soundFrame ++ [100], invalidFrame.tail] }).subscribe "t").2.1 ∧
      ((encodedClient.expecting { chunks := [soundFrame, invalidFrame] }).subscribe "t").2.1 =
        [{ id := [55], data := Bytes.ofString "hi" }] := by
  have halone : EndsAlone [soundFrame, invalidFrame] := by decide +kernel
  have halone' : EndsAlone [soundFrame ++ [100], invalidFrame.tail] := by decide +kernel
  obtain ⟨_, hsame⟩ := subscribe_delivers_before_fault encodedClient rfl "t"
  obtain ⟨_, hdelivered, _, hall⟩ := hsame { chunks := [soundFrame, invalidFrame] }
    { chunks := [soundFrame ++ [100], invalidFrame.tail] } (.symbol 33 0) (.symbol 33 0) rfl rfl
    (by decide +kernel) (by decide +kernel) (by decide +kernel) (by decide +kernel)
    (by decide +kernel)
  exact ⟨halone, halone', hdelivered, hall.trans (by decide +kernel)⟩

/-- It is not so that cuts never matter: in one chunk with the invalid frame, the event before it
is lost, and its id with it. -/
theorem subscribe_loses_before_fault :
    ¬∀ (c : Client) (topic : String) (r r' : Response) (cause cause' : Base64.Fault),
      c.config.base64 = true → r.isSuccess = true → r'.isSuccess = true →
      r.arriving.flatten = r'.arriving.flatten →
      ((c.expecting r).subscribe topic).2.2 = .failed (.protocol (.base64 cause)) →
      ((c.expecting r').subscribe topic).2.2 = .failed (.protocol (.base64 cause')) →
      ((c.expecting r).subscribe topic).2.1 = ((c.expecting r').subscribe topic).2.1 := by
  intro hall
  have hsame := hall encodedClient "t" { chunks := [soundFrame, invalidFrame] }
    { chunks := [soundFrame ++ invalidFrame] } (.symbol 33 0) (.symbol 33 0) rfl rfl rfl
    (by decide +kernel) (by decide +kernel) (by decide +kernel)
  revert hsame
  decide +kernel

end EventBroker.Client
