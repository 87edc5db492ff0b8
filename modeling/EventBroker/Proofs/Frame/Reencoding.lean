import EventBroker.Proofs.Frame.Calls
import EventBroker.Proofs.Frame.Payload
import EventBroker.Proofs.Frame.RoundTrip
import Mathlib.Data.List.DropRight

/-!
What is read can be written and read again. The event of a frame has values without line
breaks, an id without a zero byte, a comment that begins with no line feed and a delay of whole
milliseconds: these are the events that a reader gets unchanged. So writing a decoded event
gives a frame that is read as that very event. Of other events a reader gets all but the blank
lines at the front of the comment, which leave no trace in the frame under way.
-/
namespace EventBroker.Frame

open Bytes

theorem unifyBreaks_of_not_mem (s : Bytes) (hs : carriageReturn ∉ s) : unifyBreaks s = s := by
  induction s with
  | nil => rfl
  | cons b s ih =>
    have hb := List.ne_of_not_mem_cons hs
    have hrest := List.not_mem_of_not_mem_cons hs
    by_cases hfeed : b = lineFeed
    · rw [hfeed, unifyBreaks_lineFeed, ih hrest]
    · have hother := (isTerminator_eq_false_iff b).mpr ⟨hfeed, Ne.symm hb⟩
      rw [unifyBreaks_other b s hother, ih hrest]

theorem IsLine.not_mem_carriageReturn {s : Bytes} (hs : IsLine s) : carriageReturn ∉ s := by
  intro hmem
  have hbreak := hs carriageReturn hmem
  contradiction

theorem not_mem_intercalate (ls : List Bytes) (hls : ∀ l ∈ ls, IsLine l) :
    carriageReturn ∉ [lineFeed].intercalate ls := by
  intro hmem
  induction ls with
  | nil => cases hmem
  | cons l ls ih =>
    have hfirst := (hls l List.mem_cons_self).not_mem_carriageReturn
    cases ls with
    | nil =>
      rw [List.intercalate_singleton] at hmem
      exact hfirst hmem
    | cons next ls =>
      rw [List.intercalate_cons_cons] at hmem
      rcases List.mem_append.mp hmem with hfront | hrest
      · rcases List.mem_append.mp hfront with hline | hfeed
        · exact hfirst hline
        · exact absurd (List.mem_singleton.mp hfeed) (by decide)
      · exact ih (fun l hl => hls l (List.mem_cons_of_mem _ hl)) hrest

theorem isLine_lineValue (line : Bytes) (hline : IsLine line) : IsLine (lineValue line) := by
  intro b hb
  have hrest : ∀ b ∈ (line.dropWhile (· != colon)).tail, b ∈ line := fun b hb =>
    (List.dropWhile_sublist _).subset (List.mem_of_mem_tail hb)
  unfold lineValue at hb
  simp only at hb
  split at hb
  · exact hline b (hrest b (List.mem_of_mem_tail hb))
  · exact hline b (hrest b hb)

section
variable (frame : List Bytes) (hframe : ∀ l ∈ frame, IsLine l)
include hframe

theorem isLine_of_mem_valuesOf (name v : Bytes) (hv : v ∈ valuesOf name frame) : IsLine v := by
  obtain ⟨line, hline, rfl⟩ := List.mem_map.mp hv
  exact isLine_lineValue line (hframe line (List.mem_filter.mp hline).1)

/-- An id is a line without a zero byte. -/
theorem readId_frameId : readId ((frameId? frame).getD []) = (frameId? frame).getD [] := by
  cases hid : frameId? frame with
  | none => rfl
  | some id =>
    have hmem := List.mem_of_getLast? hid
    obtain ⟨hvalue, hzero⟩ := List.mem_filter.mp hmem
    have hline := isLine_of_mem_valuesOf frame hframe idField id hvalue
    have hsound : id.contains 0 = false := by simpa using hzero
    rw [Option.getD_some, readId_eq, singleLine_of_isLine id hline, hsound,
      if_neg Bool.false_ne_true]

theorem readName_frameName : readName (frameName frame) = frameName frame := by
  rw [readName_eq]
  unfold frameName
  cases hname : (valuesOf nameField frame).getLast? with
  | none => rfl
  | some name =>
    have hmem := List.mem_of_getLast? hname
    exact singleLine_of_isLine name (isLine_of_mem_valuesOf frame hframe nameField name hmem)

theorem unifyBreaks_frameData : unifyBreaks (frameData frame) = frameData frame :=
  unifyBreaks_of_not_mem _
    (not_mem_intercalate _ (isLine_of_mem_valuesOf frame hframe dataField))

/-- A comment begins with no line feed, since the blank lines ahead of all others are left out. -/
theorem readComment_frameComment : readComment (frameComment frame) = frameComment frame := by
  have hlines := isLine_of_mem_valuesOf frame hframe []
  have hkept : ∀ l ∈ frameComments frame, IsLine l := fun l hl =>
    hlines l ((List.dropWhile_sublist _).subset hl)
  have hdropped : (frameComments frame).dropWhile (·.isEmpty) = frameComments frame := by
    unfold frameComments
    exact List.dropWhile_idempotent _ _
  unfold readComment
  rw [frameComment, unifyBreaks_of_not_mem _ (not_mem_intercalate _ hkept),
    ← intercalate_dropWhile _ hkept, hdropped]

omit hframe in
theorem readRetry_frameRetry : readRetry (frameRetry frame) = frameRetry frame := by
  unfold frameRetry
  cases ((valuesOf retryField frame).filter isNumeral).getLast? with
  | none => rfl
  | some value =>
    rw [Option.bind_some, delay?]
    split
    · next hword =>
      have hmillis : (Duration.ofMillis (Decimal.ofDigits value)).toMillis =
          Decimal.ofDigits value := Nat.mul_div_cancel _ (by decide)
      rw [readRetry_some, hmillis, if_pos hword]
    · rfl

/-- A reader gets the event of a frame unchanged. -/
theorem received_frameEvent : received false (frameEvent frame) = frameEvent frame := by
  simp only [received, frameEvent, readData, readId_frameId frame hframe,
    readName_frameName frame hframe, unifyBreaks_frameData frame hframe,
    readComment_frameComment frame hframe, readRetry_frameRetry frame, Bool.false_eq_true, if_false]

end

/-- In base64 any data is written as it is. -/
theorem received_withData (e : Event) (he : received false e = e) (data : Bytes) :
    received true { e with data } = { e with data } := by
  have hfields := Event.mk.inj he
  obtain ⟨hid, hname, _, hcomment, hretry⟩ := hfields
  simp only [received, readData, if_true, hid, hname, hcomment, hretry]

theorem received_of_closesLines (base64 : Bool) (e : Event)
    (he : Decoder.ClosesLines base64 e) : received base64 e = e := by
  obtain ⟨frame, hframe, hclose⟩ := he
  have hplain := received_frameEvent frame hframe
  cases base64 with
  | false =>
    rw [Pending.close_ofLines, Option.map_eq_some_iff] at hclose
    obtain ⟨_, hfound, ⟨⟩⟩ := hclose
    obtain ⟨_, rfl⟩ : frame ≠ [] ∧ frameEvent frame = e := by simpa using hfound
    exact hplain
  | true =>
    rw [Pending.close_ofLines_true, Option.map_eq_some_iff] at hclose
    obtain ⟨plain, hfound, hdecoded⟩ := hclose
    obtain ⟨_, rfl⟩ : frame ≠ [] ∧ frameEvent frame = plain := by simpa using hfound
    cases hdata : decodeData (frameEvent frame) with
    | error cause =>
      rw [hdata] at hdecoded
      cases hdecoded
    | ok decoded =>
      rw [hdata] at hdecoded
      cases hdecoded
      rw [eq_withData_of_decodeData _ _ hdata]
      exact received_withData _ hplain _

namespace Decoder

variable (limit : Nat) (base64 : Bool)

/-- The frame of an event gives one event if it has any field, and none otherwise. -/
theorem decode_frame (e : Event) :
    (new limit base64).decode (encode base64 e) =
      (new limit base64, .ok (if hasField e then [received base64 e] else [])) := by
  apply (decode_eq_ok_iff (caughtUp_new limit base64) _ _ _).mpr
  refine ⟨?_, Nat.zero_le limit⟩
  have hscan := scan_encode limit base64 e []
  rw [List.append_nil] at hscan
  rw [hscan, scan_nil, prepend_ok, List.append_nil]
  split <;> rfl

/-- Every event that a decoder hands out, whatever it was fed and whatever calls failed, is
read again from its own frame, equal in every field. -/
theorem decode_encode_of_answers (limit' : Nat) (chunks : List Bytes) (events : List Event)
    (hanswer : .ok events ∈ (new limit base64).answers chunks) (e : Event) (he : e ∈ events)
    (hfield : hasField e = true) :
    (new limit' base64).decode (encode base64 e) = (new limit' base64, .ok [e]) := by
  have hclosed := closesLines_of_answers limit base64 chunks events hanswer e he
  rw [decode_frame, if_pos hfield, received_of_closesLines base64 e hclosed]

/-- Chunks in base64 that a decoder reads after it has refused a frame: an id that begins with a
space, blank lines in every place of the comment, a zero ahead of the delay. -/
def soundAfterFault : List Bytes :=
  [Bytes.ofString "data: !\n\n", Bytes.ofString "id:  7:\r",
    Bytes.ofString "\n:\n:a\n:\n:b\n:\nretry: 0250", Bytes.ofString "\ndata: aGk=\n\n"]

def soundEvent : Event :=
  { id := Bytes.ofString " 7:", data := Bytes.ofString "hi", comment := Bytes.ofString "a\n\nb\n"
    retry := some (.ofMillis 250) }

theorem decode_encode_of_answers_afterFault :
    .ok [soundEvent] ∈ (new 64 true).answers soundAfterFault ∧ hasField soundEvent = true ∧
      (new 64 true).decode (encode true soundEvent) = (new 64 true, .ok [soundEvent]) := by
  have hanswer : .ok [soundEvent] ∈ (new 64 true).answers soundAfterFault := by decide +kernel
  have hfield : hasField soundEvent = true := by decide +kernel
  exact ⟨hanswer, hfield, decode_encode_of_answers 64 true 64 soundAfterFault [soundEvent] hanswer
    soundEvent (List.mem_singleton_self _) hfield⟩

end Decoder

theorem unifyBreaks_terminator (b : UInt8) (s : Bytes) (hb : isTerminator b = true) :
    ∃ t, unifyBreaks (b :: s) = lineFeed :: t := by
  by_cases hfeed : b = lineFeed
  · exact ⟨_, by rw [hfeed, unifyBreaks_lineFeed]⟩
  · have hreturn : b = carriageReturn := by
      simpa [isTerminator, hfeed] using hb
    by_cases hpair : s.head? = some lineFeed
    · obtain ⟨t, rfl⟩ := List.head?_eq_some_iff.mp hpair
      exact ⟨_, by rw [hreturn, unifyBreaks_pair]⟩
    · exact ⟨_, by rw [hreturn, unifyBreaks_return s hpair]⟩

/-- A comment loses something exactly if it begins with a line break. -/
theorem readComment_eq_iff (comment : Bytes) :
    readComment comment = unifyBreaks comment ↔
      ∀ b ∈ comment.head?, isTerminator b = false := by
  unfold readComment
  cases comment with
  | nil => simp [unifyBreaks]
  | cons b rest =>
    have hhead : (∀ c ∈ (b :: rest).head?, isTerminator c = false) ↔ isTerminator b = false := by
      simp
    rw [hhead]
    by_cases hb : isTerminator b = true
    · obtain ⟨t, ht⟩ := unifyBreaks_terminator b rest hb
      have hshorter : (t.dropWhile (· == lineFeed)).length < (lineFeed :: t).length :=
        Nat.lt_succ_of_le (List.dropWhile_sublist _).length_le
      have hdrop : (lineFeed :: t).dropWhile (· == lineFeed) = t.dropWhile (· == lineFeed) :=
        List.dropWhile_cons_of_pos (beq_self_eq_true lineFeed)
      rw [ht, hdrop, hb]
      constructor
      · intro hsame
        rw [hsame] at hshorter
        omega
      · intro hfalse
        cases hfalse
    · have hother : isTerminator b = false := Bool.eq_false_iff.mpr hb
      have hne : ¬((b == lineFeed) = true) := by
        simpa using ((isTerminator_eq_false_iff b).mp hother).1
      have hkeep : (b :: unifyBreaks rest).dropWhile (· == lineFeed) = b :: unifyBreaks rest :=
        List.dropWhile_cons_of_neg hne
      rw [unifyBreaks_other b rest hother, hkeep]
      exact ⟨fun _ => hother, fun _ => rfl⟩

namespace Decoder

variable (limit : Nat) (base64 : Bool)

/-- The comment of an event is read with one line feed for each of its breaks, less those that it
begins with. So it is kept exactly if its first line is not blank, while data in plain text
keeps its blank lines wherever they stand. An event without any field has no frame. -/
theorem decode_encode_comment (e : Event) :
    ∃ arrived : Event,
      (new limit base64).decode (encode base64 e) =
          (new limit base64, .ok (if hasField e then [arrived] else [])) ∧
        arrived.comment = (unifyBreaks e.comment).dropWhile (· == lineFeed) ∧
        (arrived.comment = unifyBreaks e.comment ↔ ∀ b ∈ e.comment.head?, isTerminator b = false) ∧
        (base64 = false → arrived.data = unifyBreaks e.data) := by
  refine ⟨received base64 e, decode_frame limit base64 e, rfl, readComment_eq_iff e.comment, ?_⟩
  rintro rfl
  rfl

/-- It is not so that a comment keeps its blank lines wherever they stand: the first one is lost. -/
theorem decode_encode_drops_blank_comment :
    ¬∀ (limit : Nat) (base64 : Bool) (e : Event), hasField e = true →
      ∃ arrived : Event,
        (new limit base64).decode (encode base64 e) = (new limit base64, .ok [arrived]) ∧
        arrived.comment = unifyBreaks e.comment := by
  intro hall
  obtain ⟨arrived, hdecode, hcomment⟩ :=
    hall 64 false { comment := Bytes.ofString "\nx", data := Bytes.ofString "\ny" }
      (by decide +kernel)
  rw [decode_frame, if_pos (by decide +kernel)] at hdecode
  obtain rfl : received false _ = arrived := by simpa using hdecode
  revert hcomment
  decide +kernel

end Decoder

end EventBroker.Frame
