import EventBroker.Proofs.Client.Loops
import EventBroker.Proofs.Frame.Chunking

/-!
Reading a body that may end anywhere. Whatever the chunks and however the reading ends,
the events that a client handles are the first ones of the body, and unless a frame is
refused they are all that the chunks complete.
-/
namespace EventBroker.Client

open EventBroker.Frame

/-- The id that is remembered after some events: that of the last one with data and an id. -/
def remembered (before : Bytes) (events : List Event) : Bytes :=
  events.foldl (fun id e => if e.hasData && !e.id.isEmpty then e.id else id) before

theorem handle_fst (state : Client × List Event) (e : Event) :
    (handle state e).1.lastEventId =
        (if e.hasData && !e.id.isEmpty then e.id else state.1.lastEventId) ∧
      (handle state e).1.config = state.1.config := by
  have hretry : (state.1.noteRetry e).lastEventId = state.1.lastEventId ∧
      (state.1.noteRetry e).config = state.1.config := by
    unfold noteRetry
    split <;> exact ⟨rfl, rfl⟩
  unfold handle
  cases hdata : e.hasData with
  | false => exact hretry
  | true =>
    cases hid : e.id.isEmpty with
    | true =>
      simp only [noteDelivered, hid, if_true, Bool.not_true, Bool.and_false]
      exact hretry
    | false =>
      simp only [noteDelivered, hid, if_true, Bool.not_false, Bool.and_self, Bool.false_eq_true,
        if_false, true_and]
      exact hretry.2

theorem handle_snd (state : Client × List Event) (e : Event) :
    (handle state e).2 = ([e].filter (·.hasData)).reverse ++ state.2 := by
  unfold handle
  cases hdata : e.hasData with
  | false => simp [hdata]
  | true => simp [hdata]

theorem foldl_handle (events : List Event) (state : Client × List Event) :
    (events.foldl handle state).1.lastEventId = remembered state.1.lastEventId events ∧
      (events.foldl handle state).1.config = state.1.config ∧
      (events.foldl handle state).2 = (events.filter (·.hasData)).reverse ++ state.2 := by
  induction events generalizing state with
  | nil => exact ⟨rfl, rfl, rfl⟩
  | cons e events ih =>
    obtain ⟨hid, hconfig, hdelivered⟩ := ih (handle state e)
    obtain ⟨hid₁, hconfig₁⟩ := handle_fst state e
    rw [List.foldl_cons, hid, hconfig, hdelivered, hid₁, hconfig₁, handle_snd]
    refine ⟨rfl, rfl, ?_⟩
    rw [← List.append_assoc, ← List.reverse_append, ← List.filter_append]
    rfl

/-- What a client handles of a body that it reads in part. -/
theorem readChunks_handles (ending : Ending) (chunks : List Bytes) (d d' : Decoder)
    (state : Client × List Event) (body : Bytes) (events : List Event) (hd : d.Settled)
    (hbody : d.scan body = .ok (d', events)) (hcut : chunks.flatten <+: body) :
    ∃ got, got <+: events ∧ (readChunks ending d state chunks).1 = got.foldl handle state ∧
      ((∀ fault, (readChunks ending d state chunks).2 ≠ .failed (.protocol fault)) →
        ∃ d₁, d.scan chunks.flatten = .ok (d₁, got)) := by
  induction chunks generalizing d state body events with
  | nil =>
    refine ⟨[], List.nil_prefix, ?_, fun _ => ⟨d, rfl⟩⟩
    unfold readChunks
    cases ending <;> rfl
  | cons chunk rest ih =>
    obtain ⟨t, rfl⟩ := hcut
    rw [List.flatten_cons, List.append_assoc] at hbody
    obtain ⟨d₁, before, after, hchunk, hrest, rfl⟩ := Decoder.scan_of_append d d' _ _ _ hbody
    rcases hdecode : d.decode chunk with ⟨d₂, fault | found⟩
    · refine ⟨[], List.nil_prefix, ?_, ?_⟩
      · simp only [readChunks, hdecode, List.foldl_nil]
      · intro hnever
        simp only [readChunks, hdecode] at hnever
        exact absurd rfl (hnever fault)
    · have hscan := ((Decoder.decode_eq_ok_iff hd.toCaughtUp d₂ chunk found).mp hdecode).1
      obtain ⟨rfl, rfl⟩ := Prod.mk.inj (Except.ok.inj (hchunk.symm.trans hscan))
      obtain ⟨got, hgot, hstate, hall⟩ := ih d₁ (before.foldl handle state) _ after
        (hd.decode d d₁ chunk before hdecode) hrest (List.prefix_append _ _)
      refine ⟨before ++ got, (List.prefix_append_right_inj before).mpr hgot, ?_, ?_⟩
      · rw [List.foldl_append]
        simp only [readChunks, hdecode]
        exact hstate
      · intro hnever
        simp only [readChunks, hdecode] at hnever
        obtain ⟨d₃, hlater⟩ := hall hnever
        rw [List.flatten_cons, Decoder.scan_append d d₁ chunk _ before hchunk, hlater]
        exact ⟨d₃, rfl⟩

theorem remembered_append (before : Bytes) (front back : List Event) :
    remembered before (front ++ back) = remembered (remembered before front) back :=
  List.foldl_append

/-- An event without data is not remembered. -/
theorem remembered_filter (before : Bytes) (events : List Event) :
    remembered before (events.filter (·.hasData)) = remembered before events := by
  induction events generalizing before with
  | nil => rfl
  | cons e events ih =>
    have hcons : ∀ rest, remembered before (e :: rest) =
        remembered (if e.hasData && !e.id.isEmpty then e.id else before) rest := fun _ => rfl
    cases hdata : e.hasData with
    | true => rw [List.filter_cons_of_pos hdata, hcons, hcons, ih]
    | false =>
      have hskip : ¬(e.hasData = true) := by rw [hdata]; exact Bool.false_ne_true
      rw [List.filter_cons_of_neg hskip, hcons, ih, hdata, Bool.false_and,
        if_neg Bool.false_ne_true]

/-- Whatever stops the reading, it handles events one after another. -/
theorem readChunks_folds (ending : Ending) (d : Decoder) (state : Client × List Event)
    (chunks : List Bytes) :
    ∃ events : List Event, (readChunks ending d state chunks).1 = events.foldl handle state := by
  induction chunks generalizing d state with
  | nil => exact ⟨[], by cases ending <;> rfl⟩
  | cons chunk rest ih =>
    rcases hdecode : d.decode chunk with ⟨d', fault | events⟩
    · exact ⟨[], by simp only [readChunks, hdecode, List.foldl_nil]⟩
    · obtain ⟨later, hlater⟩ := ih d' (events.foldl handle state)
      refine ⟨events ++ later, ?_⟩
      rw [List.foldl_append, ← hlater]
      simp only [readChunks, hdecode]

theorem connect_frame (c : Client) (topic : Option String) :
    (c.connect topic).1.lastEventId = c.lastEventId ∧ (c.connect topic).1.config = c.config := by
  unfold connect
  split
  · exact ⟨rfl, rfl⟩
  · simp only
    split
    · rw [call_eq]
      exact ⟨rfl, rfl⟩
    · exact ⟨rfl, rfl⟩

/-- What subscribing gives once a connection is open. Beside the reading only the hook is called. -/
theorem subscribe_of_connect (c opened : Client) (topic : String) (reader : Reader)
    (h : c.connect (some topic) = (opened, .ok reader)) :
    ∃ calls, c.subscribe topic =
      ({ (readChunks reader.ending reader.decoder (opened, []) reader.chunks).1.1 with calls },
        (readChunks reader.ending reader.decoder (opened, []) reader.chunks).1.2.reverse,
        (readChunks reader.ending reader.decoder (opened, []) reader.chunks).2) := by
  unfold subscribe readStream
  simp only [h]
  rcases readChunks reader.ending reader.decoder (opened, []) reader.chunks with
    ⟨⟨c', events⟩, outcome⟩
  cases outcome with
  | waiting => exact ⟨c'.calls, rfl⟩
  | ended | failed fault =>
    refine ⟨(c'.call (.disconnect topic)).calls, ?_⟩
    simp only [Option.getD_some]
    rw [← call_eq]

end EventBroker.Client
