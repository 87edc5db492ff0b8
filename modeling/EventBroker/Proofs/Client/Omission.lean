import EventBroker.Proofs.Client.Refusal
import EventBroker.Proofs.Client.Yield
import EventBroker.Proofs.Frame.Omission

/-!
A client does not notice whether it is sent keep-alives. Of any body that a server writes,
however it is cut into chunks and wherever it breaks off, it delivers the same events,
remembers the same id and the same delay and comes out alike, with the keep-alives and
without them.
-/
namespace EventBroker

open EventBroker.Frame

namespace Reader

theorem completes_of_ok {d d₁ : Decoder} {chunk : Bytes} {events : List Event} (ending : Ending)
    (rest : List Bytes) (h : d.decode chunk = (d₁, .ok events)) :
    completes ending d (chunk :: rest) =
      (events ++ (completes ending d₁ rest).1, (completes ending d₁ rest).2) := by
  simp only [completes, h]

theorem completes_of_fault {d : Decoder} {chunk : Bytes} {fault : Frame.Fault} (ending : Ending)
    (rest : List Bytes) (h : (d.decode chunk).2 = .error fault) :
    completes ending d (chunk :: rest) = ([], .failed (.protocol fault)) := by
  unfold completes
  rcases hdecode : d.decode chunk with ⟨d₁, fault' | events⟩
  · rw [hdecode] at h
    cases h
    rfl
  · rw [hdecode] at h
    cases h

/-- A chunk without bytes changes nothing. -/
theorem completes_arriving (ending : Ending) (d : Decoder) (hd : d.Settled) (chunks : List Bytes) :
    completes ending d (chunks.filter (!·.isEmpty)) = completes ending d chunks := by
  induction chunks generalizing d with
  | nil => rfl
  | cons chunk rest ih =>
    cases chunk with
    | nil =>
      have hdecode : d.decode [] = (d, .ok []) :=
        (Decoder.decode_eq_ok_iff hd.toCaughtUp d [] []).mpr ⟨rfl, hd.retained_le⟩
      rw [List.filter_cons_of_neg (by simp), ih d hd, completes_of_ok ending rest hdecode,
        List.nil_append]
    | cons b chunk =>
      rw [List.filter_cons_of_pos (by simp)]
      rcases hdecode : d.decode (b :: chunk) with ⟨d', fault | events⟩
      · rw [completes_of_fault ending _ (congrArg (·.2) hdecode),
          completes_of_fault ending _ (congrArg (·.2) hdecode)]
      · rw [completes_of_ok ending _ hdecode, completes_of_ok ending _ hdecode,
          ih d' (hd.decode d d' _ events hdecode)]

/-- Two readings of a body, with the keep-alives and without them, from any place of it on. -/
theorem completes_bare {limit : Nat} {base64 : Bool} (hlimit : 0 < limit) (frames : List Bytes)
    (hframes : ∀ f ∈ frames, f = keepAlive ∨ ∃ written e, f = encode written e) (ending : Ending)
    (past : List (UInt8 × Bool)) (chunks : List (List (UInt8 × Bool)))
    (hreceived : past ++ chunks.flatten <+: marked frames) (d d' : Decoder)
    (h : Decoder.Abreast limit base64 past d d') :
    (completes ending d (chunks.map whole)).1.filter (· ≠ {}) =
        (completes ending d' (chunks.map bare)).1.filter (· ≠ {}) ∧
      (completes ending d (chunks.map whole)).2 = (completes ending d' (chunks.map bare)).2 := by
  induction chunks generalizing past d d' with
  | nil => exact ⟨rfl, rfl⟩
  | cons chunk rest ih =>
    rw [List.flatten_cons, ← List.append_assoc] at hreceived
    rw [List.map_cons, List.map_cons]
    rcases h.decode hlimit frames hframes ((List.prefix_append _ _).trans hreceived) with
      ⟨fault, hfault, hfault'⟩ | ⟨d₁, d₁', found, found', hdecode, hdecode', hfound, hnext⟩
    · rw [completes_of_fault ending _ hfault, completes_of_fault ending _ hfault']
      exact ⟨rfl, rfl⟩
    · obtain ⟨hlater, hend⟩ := ih (past ++ chunk) hreceived d₁ d₁' hnext
      rw [completes_of_ok ending _ hdecode, completes_of_ok ending _ hdecode']
      refine ⟨?_, hend⟩
      rw [List.filter_append, List.filter_append, hfound, hlater]

end Reader

namespace Client

/-- Neither what is delivered nor what is remembered depends on events without any field. -/
theorem filter_ne_empty (events : List Event) (id : Bytes) (hint : Option Duration) :
    (events.filter (· ≠ {})).filter (·.hasData) = events.filter (·.hasData) ∧
      remembered id (events.filter (· ≠ {})) = remembered id events ∧
      suggested hint (events.filter (· ≠ {})) = suggested hint events := by
  induction events generalizing id hint with
  | nil => exact ⟨rfl, rfl, rfl⟩
  | cons e events ih =>
    by_cases he : e = {}
    · rw [List.filter_cons_of_neg (by simp [he]), he]
      exact ih id hint
    · obtain ⟨hdata, hid, hhint⟩ :=
        ih (if e.hasData && !e.id.isEmpty then e.id else id) (e.retry.or hint)
      rw [List.filter_cons_of_pos (by simp [he])]
      refine ⟨?_, hid, hhint⟩
      rw [List.filter_cons, List.filter_cons, hdata]

/-- What subscribing makes of the chunks of a response. -/
theorem subscribe_chunks (c : Client) (topic : String) (chunks : List Bytes) (ending : Ending) :
    let row := Reader.completes ending c.decoder chunks
    let done := (c.expecting { chunks, ending }).subscribe topic
    done.2 = (row.1.filter (·.hasData), row.2) ∧
      done.1.lastEventId = remembered c.lastEventId row.1 ∧
      done.1.retryHint = suggested c.retryHint row.1 := by
  intro row done
  obtain ⟨opened, hconnect, hid, hhint⟩ :=
    c.connect_expecting (some topic) { chunks, ending } rfl
  have hahead : (c.reader { chunks, ending }).ahead = row :=
    Reader.completes_arriving ending c.decoder (Decoder.settled_new _ _) chunks
  obtain ⟨hdelivered, hlast, hdelay, houtcome⟩ :=
    (c.expecting { chunks, ending }).subscribe_of_ahead opened topic _ hconnect
  rw [hahead] at hdelivered hlast hdelay houtcome
  exact ⟨Prod.ext hdelivered houtcome, hid ▸ hlast, hhint ▸ hdelay⟩

/-- Without the keep-alives, a client delivers, remembers and ends alike. -/
theorem subscribe_bare (c : Client) (hlimit : 0 < c.config.maxBufferSize) (topic : String)
    (frames : List Bytes)
    (hframes : ∀ f ∈ frames, f = keepAlive ∨ ∃ written e, f = encode written e)
    (received : List (List (UInt8 × Bool))) (hreceived : received.flatten <+: marked frames)
    (ending : Ending) :
    let kept := (c.expecting { chunks := received.map whole, ending }).subscribe topic
    let left := (c.expecting { chunks := received.map bare, ending }).subscribe topic
    kept.2 = left.2 ∧ kept.1.lastEventId = left.1.lastEventId ∧
      kept.1.retryHint = left.1.retryHint := by
  intro kept left
  obtain ⟨hkept, hkeptId, hkeptHint⟩ := c.subscribe_chunks topic (received.map whole) ending
  obtain ⟨hleft, hleftId, hleftHint⟩ := c.subscribe_chunks topic (received.map bare) ending
  obtain ⟨hevents, houtcome⟩ := Reader.completes_bare hlimit frames hframes ending [] received
    hreceived c.decoder c.decoder ⟨[], [], rfl, rfl, rfl⟩
  obtain ⟨hdata, hid, hhint⟩ := filter_ne_empty
    (Reader.completes ending c.decoder (received.map whole)).1 c.lastEventId c.retryHint
  obtain ⟨hdata', hid', hhint'⟩ := filter_ne_empty
    (Reader.completes ending c.decoder (received.map bare)).1 c.lastEventId c.retryHint
  refine ⟨?_, ?_, ?_⟩
  · rw [hkept, hleft, ← hdata, hevents, hdata', houtcome]
  · rw [hkeptId, hleftId, ← hid, hevents, hid']
  · rw [hkeptHint, hleftHint, ← hhint, hevents, hhint']

end Client

end EventBroker
