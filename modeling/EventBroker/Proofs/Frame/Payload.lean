import EventBroker.Proofs.Frame.Splitting

/-!
Frames whose data is written in base64. A decoder for base64 cuts a text into the same frames
as any other and then decodes the data of each. It goes on until the first frame whose data
is invalid; the events completed before that one are those of the frames before it.
-/
namespace EventBroker.Frame

/-- The event with its data decoded. An event without data stays as it is. -/
def decodeData (e : Event) : Except Base64.Fault Event :=
  if e.data.isEmpty then .ok e else (Base64.decode e.data).map fun data => { e with data }

/-- The decoded events ahead of the first one whose data is invalid. -/
def intact : List Event → List Event
  | [] => []
  | e :: rest =>
    match decodeData e with
    | .ok decoded => decoded :: intact rest
    | .error _ => []

def firstFault? : List Event → Option Base64.Fault
  | [] => none
  | e :: rest =>
    match decodeData e with
    | .ok _ => firstFault? rest
    | .error cause => some cause

theorem firstFault?_append (front back : List Event) :
    firstFault? (front ++ back) = (firstFault? front).or (firstFault? back) := by
  induction front with
  | nil => rfl
  | cons e front ih =>
    rw [List.cons_append, firstFault?, firstFault?]
    cases decodeData e with
    | ok decoded => exact ih
    | error cause => rfl

theorem intact_append (front back : List Event) :
    intact (front ++ back) =
      intact front ++ if firstFault? front = none then intact back else [] := by
  induction front with
  | nil => rfl
  | cons e front ih =>
    rw [List.cons_append, intact, intact, firstFault?]
    cases decodeData e with
    | ok decoded =>
      simp only [List.cons_append]
      rw [ih]
    | error cause => rfl

/-- What closing a frame gives once its data is decoded. -/
theorem Pending.close_true (p : Pending) :
    ∃ found : Option Event, p.close false = found.map .ok ∧
      p.close true = found.map fun e => (decodeData e).mapError .base64 := by
  unfold close
  cases p.touched with
  | false => exact ⟨none, rfl, rfl⟩
  | true =>
    let e : Event :=
      { id := p.id.getD [], name := p.name, data := joinLines p.data,
        comment := joinLines p.comment, retry := p.retry }
    refine ⟨some e, rfl, ?_⟩
    simp only [Bool.not_true, Bool.false_eq_true, if_false, Bool.true_and, Option.map_some,
      decodeData, e]
    cases (joinLines p.data).isEmpty with
    | true => rfl
    | false =>
      simp only [Bool.not_false, if_true, Bool.false_eq_true, if_false]
      cases Base64.decode (joinLines p.data) <;> rfl

/-- Closing a frame gives its event with the data decoded, if it has any line. -/
theorem Pending.close_ofLines_true (frame : List Bytes) :
    (ofLines frame).close true =
      (if frame.isEmpty then none else some (frameEvent frame)).map fun e =>
        (decodeData e).mapError .base64 := by
  obtain ⟨found, hplain, hencoded⟩ := (ofLines frame).close_true
  rw [close_ofLines, Option.map_inj_right fun _ _ => Except.ok.inj] at hplain
  rw [hencoded, hplain]

theorem eq_withData_of_decodeData (e decoded : Event) (h : decodeData e = .ok decoded) :
    decoded = { e with data := decoded.data } := by
  unfold decodeData at h
  split at h
  · cases h
    rfl
  · cases hdata : Base64.decode e.data with
    | error cause =>
      rw [hdata] at h
      cases h
    | ok data =>
      rw [hdata] at h
      cases h
      rfl

namespace Decoder

def encoded (d : Decoder) : Decoder := { d with base64 := true }

/-- A step of either decoder. -/
theorem step_encoded (d : Decoder) (hd : d.base64 = false) (b : UInt8) :
    ∃ d' found, d'.base64 = false ∧ d.step b = (d', Option.map Except.ok found) ∧
      d.encoded.step b = (d'.encoded, found.map fun e => (decodeData e).mapError .base64) := by
  obtain ⟨limit, base64, buffer, pending, skipLineFeed⟩ := d
  obtain rfl : base64 = false := hd
  unfold step encoded
  simp only
  split
  · exact ⟨_, none, rfl, rfl, rfl⟩
  · split
    · unfold readLine
      simp only
      split
      · obtain ⟨found, hplain, hencoded⟩ := pending.close_true
        exact ⟨_, found, rfl, Prod.ext rfl hplain, Prod.ext rfl hencoded⟩
      · exact ⟨_, none, rfl, rfl, rfl⟩
    · exact ⟨_, none, rfl, rfl, rfl⟩

/-- What a text gives once the data is decoded: the first invalid data ends the reading. -/
theorem scan_encoded (d d' : Decoder) (hd : d.base64 = false) (s : Bytes) (events : List Event)
    (h : d.scan s = .ok (d', events)) :
    d.encoded.scan s = match firstFault? events with
      | none => .ok (d'.encoded, intact events)
      | some cause => .error (.base64 cause) := by
  induction s generalizing d events with
  | nil =>
    cases h
    rfl
  | cons b s ih =>
    obtain ⟨d₁, found, hd₁, hplain, hencoded⟩ := d.step_encoded hd b
    rw [scan_cons d d₁ b s found hplain] at h
    obtain ⟨later, hlater, rfl⟩ := prepend_eq_ok _ _ _ _ h
    have hrest := ih d₁ hd₁ later hlater
    cases found with
    | none =>
      rw [scan_cons d.encoded d₁.encoded b s none hencoded, hrest]
      exact prepend_nil _
    | some e =>
      rw [Option.map_some] at hencoded
      rw [Option.toList_some, List.singleton_append, firstFault?, intact]
      cases hdata : decodeData e with
      | error cause =>
        rw [hdata] at hencoded
        exact scan_cons_fault d.encoded d₁.encoded b s _ hencoded
      | ok decoded =>
        rw [hdata] at hencoded
        rw [scan_cons d.encoded d₁.encoded b s (some decoded) hencoded, hrest]
        cases firstFault? later <;> rfl

/-- What a fresh decoder for base64 makes of a text. -/
theorem scan_new_encoded (limit : Nat) (s : Bytes) :
    ∃ d, (new limit true).scan s = match firstFault? (eventsOf s) with
      | none => .ok (d, intact (eventsOf s))
      | some cause => .error (.base64 cause) := by
  obtain ⟨skip, hscan⟩ := scan_eq_eventsOf limit s
  exact ⟨_, scan_encoded (new limit false) _ rfl s _ hscan⟩

end Decoder

/-- A longer text has more frames, behind those that were there. -/
theorem eventsOf_append (s t : Bytes) : ∃ later, eventsOf (s ++ t) = eventsOf s ++ later := by
  obtain ⟨_, hwhole⟩ := Decoder.scan_eq_eventsOf 0 (s ++ t)
  obtain ⟨_, hfront⟩ := Decoder.scan_eq_eventsOf 0 s
  obtain ⟨d, before, after, hbefore, _, hall⟩ := Decoder.scan_of_append _ _ s t _ hwhole
  obtain ⟨_, rfl⟩ := Prod.mk.inj (Except.ok.inj (hbefore.symm.trans hfront))
  exact ⟨after, hall⟩

/-- A frame that is not closed any more adds no event. -/
theorem eventsOf_append_of_unclosed (s t : Bytes) (ht : [] ∉ (cutLines t).dropLast) :
    eventsOf (s ++ t) = eventsOf s := by
  obtain ⟨_, hwhole⟩ := Decoder.scan_eq_eventsOf 0 (s ++ t)
  obtain ⟨skip, hfront⟩ := Decoder.scan_eq_eventsOf 0 s
  obtain ⟨d, hback⟩ := Decoder.scan_of_unclosed 0 (openFrame s) (openLine s) skip t ht
  rw [Decoder.scan_append _ _ s t _ hfront, hback, Decoder.prepend_ok, List.append_nil] at hwhole
  exact (Prod.mk.inj (Except.ok.inj hwhole)).2.symm

end EventBroker.Frame
