import EventBroker.Proofs.Base64
import EventBroker.Proofs.Frame.Drain
import EventBroker.Proofs.Frame.Grammar

/-!
What the size limit of a decoder bounds. The bytes of a frame that count towards the limit
come out of the buffer, a line never adding more to the frame than its own length, so no
call leaves or hands out more than it was left with and fed. The limit is compared at the
end of a call and without the id: it bounds what is kept, while an event may exceed it by
what was fed since the last call that succeeded, and an id stands beside the limit.
-/
namespace EventBroker

def Event.textSize (e : Event) : Nat := e.name.length + e.data.length + e.comment.length

namespace Frame

open Bytes

/-- What follows the colon of a line leaves room for the name and the colon. -/
theorem length_lineValue (line : Bytes) :
    lineValue line = [] ∨ (lineName line).length + 1 + (lineValue line).length ≤ line.length := by
  have hline : (line.takeWhile (· != colon)).length + (line.dropWhile (· != colon)).length =
      line.length := by
    rw [← List.length_append, List.takeWhile_append_dropWhile]
  unfold lineName lineValue
  cases hdrop : line.dropWhile (· != colon) with
  | nil => exact Or.inl rfl
  | cons b rest =>
    rw [hdrop, List.length_cons] at hline
    have hvalue : (if rest.head? = some space then rest.tail else rest).length ≤ rest.length := by
      split
      · rw [List.length_tail]
        omega
      · exact Nat.le_refl _
    refine Or.inr (Nat.le_trans (Nat.add_le_add_left hvalue _) ?_)
    omega

theorem length_lineValue_lt (line : Bytes) (hline : line ≠ []) :
    (lineValue line).length < line.length := by
  have hpositive := List.length_pos_iff.mpr hline
  rcases length_lineValue line with hnone | hroom
  · rw [hnone]
    exact hpositive
  · omega

theorem joinedSize_cons_le (line : Bytes) (ls : List Bytes) :
    joinedSize (line :: ls) ≤ joinedSize ls + 1 + line.length := by
  cases ls with
  | nil =>
    simp only [joinedSize]
    omega
  | cons l ls => exact Nat.le_refl _

namespace Pending

def idSize (p : Pending) : Nat := (p.id.getD []).length

theorem size_addComment_le (p : Pending) (value : Bytes) :
    (p.addComment value).size ≤ p.size + 1 + value.length := by
  unfold addComment
  split
  · omega
  · have hjoined := joinedSize_cons_le value p.comment
    simp only [size]
    omega

/-- A line adds no more to a frame than its own length. -/
theorem size_addLine_le (p : Pending) (line : Bytes) (hline : line ≠ []) :
    (p.addLine line).size ≤ p.size + line.length := by
  have hvalue := length_lineValue_lt line hline
  rw [addLine_eq]
  by_cases hcomment : lineName line = []
  · have hsize := size_addComment_le { p with touched := true } (lineValue line)
    have hsame : ({ p with touched := true } : Pending).size = p.size := rfl
    rw [hcomment, put_comment]
    omega
  by_cases hid : lineName line = idField
  · rw [hid, put_id, setId]
    split <;> exact Nat.le_add_right _ _
  by_cases hname : lineName line = nameField
  · rw [hname, put_name]
    simp only [size]
    omega
  by_cases hdata : lineName line = dataField
  · have hjoined := joinedSize_cons_le (lineValue line) p.data
    rw [hdata, put_data]
    simp only [size]
    omega
  by_cases hretry : lineName line = retryField
  · rw [hretry, put_retry, setRetry]
    split <;> exact Nat.le_add_right _ _
  · rw [put_unknown _ _ _ (by simp [hcomment, hid, hname, hdata, hretry])]
    exact Nat.le_add_right _ _

theorem id_put (p : Pending) (name value : Bytes) (hname : name ≠ idField) :
    (p.put name value).id = p.id := by
  unfold put apply
  rw [if_neg hname]
  split
  · unfold addComment
    split <;> rfl
  · split
    · rfl
    · split
      · rfl
      · split
        · unfold setRetry
          split <;> rfl
        · rfl

/-- An id is shorter than the line that sets it, by the name of the field and the colon. -/
theorem idSize_addLine_le (p : Pending) (line : Bytes) :
    (p.addLine line).idSize ≤ max p.idSize (line.length - 3) := by
  rw [addLine_eq]
  by_cases hid : lineName line = idField
  · rw [hid, put_id, setId]
    split
    · exact Nat.le_max_left _ _
    · have hfield : (lineName line).length = 2 := by
        rw [hid]
        rfl
      simp only [idSize, Option.getD_some]
      rcases length_lineValue line with hnone | hroom
      · rw [hnone]
        exact Nat.zero_le _
      · omega
  · rw [idSize, id_put p _ _ hid]
    exact Nat.le_max_left _ _

/-- What the event of a closed frame takes from it. -/
theorem textSize_of_close (base64 : Bool) (p : Pending) (e : Event)
    (h : p.close base64 = some (.ok e)) : e.textSize ≤ p.size ∧ e.id.length = p.idSize := by
  have hdata : joinedSize p.data = (joinLines p.data).length := joinedSize_eq p.data
  have hcomment : joinedSize p.comment = (joinLines p.comment).length := joinedSize_eq p.comment
  unfold close at h
  split at h
  · cases h
  · simp only at h
    split at h
    · split at h
      · cases h
      · next data hdecode =>
        cases h
        have hshort := Base64.length_decode_le _ _ hdecode
        refine ⟨?_, rfl⟩
        simp only [Event.textSize, size]
        omega
    · cases h
      refine ⟨?_, rfl⟩
      simp only [Event.textSize, size]
      omega

end Pending

namespace Decoder

/-- The bytes that a decoder has to read, those of a line and its terminator included, and the id
that is set already: no id that it will read without more input is longer. -/
def idBound (d : Decoder) : Nat := max d.pending.idSize (d.buffer.length - 4)

theorem skip_frame (d : Decoder) :
    d.skip.pending = d.pending ∧ d.skip.base64 = d.base64 ∧ d.skip.limit = d.limit := by
  unfold skip
  split <;> exact ⟨rfl, rfl, rfl⟩

theorem takeLine?_length (d rest : Decoder) (line : Bytes)
    (h : d.skip.takeLine? = some (line, rest)) :
    line.length + 1 + rest.buffer.length ≤ d.buffer.length ∧ rest.pending = d.pending ∧
      rest.limit = d.limit := by
  obtain ⟨b, after, hbuffer, _, _, rfl⟩ :=
    takeLine?_eq_some d.skip rest line (skip_of_takeLine? d _ h) h
  have hskip := length_skip_le d
  have hafter := length_skip_le
    { d.skip with buffer := after, skipLineFeed := b == carriageReturn }
  obtain ⟨hpending, _, hlimit⟩ := skip_frame
    { d.skip with buffer := after, skipLineFeed := b == carriageReturn }
  rw [hbuffer, List.length_append, List.length_cons] at hskip
  refine ⟨?_, hpending.trans (skip_frame d).1, hlimit.trans (skip_frame d).2.2⟩
  simp only at hafter
  omega

/-- One line more: less is held, ids stay within bounds, and so does the event of a frame that the
line closes. -/
theorem readLine_bounds (d rest : Decoder) (line : Bytes)
    (h : d.skip.takeLine? = some (line, rest)) :
    (rest.readLine line).1.retained < d.retained ∧ (rest.readLine line).1.idBound ≤ d.idBound ∧
      (rest.readLine line).1.limit = d.limit ∧
      ∀ e, (rest.readLine line).2 = some (.ok e) →
        e.textSize < d.retained ∧ e.id.length ≤ d.idBound := by
  obtain ⟨hlength, hpending, hlimit⟩ := takeLine?_length d rest line h
  unfold readLine
  split
  · refine ⟨?_, ?_, hlimit, ?_⟩
    · have hnone : ({} : Pending).size = 0 := rfl
      simp only [retained, hnone]
      omega
    · have hnone : ({} : Pending).idSize = 0 := rfl
      simp only [idBound, hnone]
      omega
    · intro e he
      obtain ⟨htext, hid⟩ := rest.pending.textSize_of_close rest.base64 e he
      rw [hpending] at htext hid
      simp only [retained, idBound]
      omega
  · next hline =>
    have hne : line ≠ [] := by
      rintro rfl
      exact hline rfl
    have hsize := rest.pending.size_addLine_le line hne
    have hid := rest.pending.idSize_addLine_le line
    rw [hpending] at hsize hid
    refine ⟨?_, ?_, hlimit, nofun⟩
    · simp only [retained, hpending]
      omega
    · simp only [idBound, hpending]
      omega

/-- What reading may leave of a decoder, and what events it may hand out beside those that were
handed out before. -/
structure Bounds (d : Decoder) (done : List Event) (r : Decoder × Except Fault (List Event)) :
    Prop where
  retained_le : r.1.retained ≤ d.retained
  idBound_le : r.1.idBound ≤ d.idBound
  limit_eq : r.1.limit = d.limit
  events : ∀ all, r.2 = .ok all → ∀ e ∈ all,
    e ∈ done ∨ e.textSize < d.retained ∧ e.id.length ≤ d.idBound

theorem bounds_of_takeLine? (d rest : Decoder) (line : Bytes) (done : List Event)
    (h : d.skip.takeLine? = some (line, rest)) (found : Option Event)
    (hfound : (rest.readLine line).2 = found.map .ok)
    (hrest : (rest.readLine line).1.Bounds (found.toList ++ done)
      ((rest.readLine line).1.drain (found.toList ++ done))) :
    d.Bounds done (d.drain done) := by
  obtain ⟨hheld, hids, hlimit, hevent⟩ := readLine_bounds d rest line h
  rw [drain_of_takeLine? d rest line done h found hfound]
  refine ⟨hrest.retained_le.trans hheld.le, hrest.idBound_le.trans hids,
    hrest.limit_eq.trans hlimit, ?_⟩
  intro all hall e he
  rcases hrest.events all hall e he with hmem | ⟨htext, hid⟩
  · rcases List.mem_append.mp hmem with hnew | hold
    · rw [Option.mem_toList] at hnew
      rw [hnew] at hfound
      exact Or.inr (hevent e hfound)
    · exact Or.inl hold
  · exact Or.inr ⟨htext.trans hheld, hid.trans hids⟩

theorem bounds_drain (d : Decoder) (done : List Event) : d.Bounds done (d.drain done) := by
  induction d, done using drain.induct with
  | case1 d done hline =>
    rw [drain_of_takeLine?_none d done hline]
    have hskip := length_skip_le d
    obtain ⟨hpending, _, hlimit⟩ := skip_frame d
    refine ⟨?_, ?_, hlimit, ?_⟩
    · simp only [retained, hpending]
      omega
    · simp only [idBound, hpending]
      omega
    · rintro all ⟨⟩ e he
      exact Or.inl he
  | case2 d done line rest hline _ hnone ih =>
    exact bounds_of_takeLine? d rest line done hline none hnone ih
  | case3 d done line rest hline _ e hsome ih =>
    exact bounds_of_takeLine? d rest line done hline (some e) hsome ih
  | case4 d done line rest hline _ fault hfault =>
    obtain ⟨hheld, hids, hlimit, _⟩ := readLine_bounds d rest line hline
    rw [drain_of_takeLine?_fault d rest line done hline fault hfault]
    refine ⟨hheld.le, hids, hlimit, ?_⟩
    intro all hall
    cases hall

/-- A call, on any decoder: what it leaves, and what it hands out. -/
theorem bounds_decode (d : Decoder) (chunk : Bytes) :
    ({ d with buffer := d.buffer ++ chunk } : Decoder).Bounds [] (d.decode chunk) := by
  have hdrain := bounds_drain { d with buffer := d.buffer ++ chunk } []
  unfold decode
  cases hresult : ({ d with buffer := d.buffer ++ chunk } : Decoder).drain [] with
  | mk d' result =>
    rw [hresult] at hdrain
    cases result with
    | error fault => exact hdrain
    | ok done =>
      simp only
      split
      · exact ⟨hdrain.retained_le, hdrain.idBound_le, hdrain.limit_eq, nofun⟩
      · refine ⟨hdrain.retained_le, hdrain.idBound_le, hdrain.limit_eq, ?_⟩
        rintro all ⟨⟩ e he
        exact hdrain.events done rfl e (List.mem_reverse.mp he)

theorem retained_le_of_decode (d d' : Decoder) (chunk : Bytes) (events : List Event)
    (h : d.decode chunk = (d', .ok events)) : d'.retained ≤ d'.limit := by
  unfold decode at h
  split at h
  · cases h
  · split at h
    · cases h
    · next hsize =>
      cases h
      exact Nat.le_of_not_lt hsize

end Decoder

/-- A decoder in use. `unchecked` counts the bytes fed since the last call that succeeded, and
`peak` is the most that this count came to. -/
structure Feeding where
  decoder : Decoder
  unchecked : Nat := 0
  peak : Nat := 0
  deriving Repr, DecidableEq

namespace Feeding

def call (f : Feeding) (chunk : Bytes) : Feeding :=
  let fed := f.unchecked + chunk.length
  let unchecked := match (f.decoder.decode chunk).2 with
    | .ok _ => 0
    | .error _ => fed
  { decoder := (f.decoder.decode chunk).1, unchecked, peak := max f.peak fed }

/-- A new decoder that was called on each chunk in turn, whether the calls succeed or not. -/
def run (limit : Nat) (base64 : Bool) (chunks : List Bytes) : Feeding :=
  chunks.foldl call { decoder := .new limit base64 }

structure Within (limit : Nat) (f : Feeding) : Prop where
  limit_eq : f.decoder.limit = limit
  retained_le : f.decoder.retained ≤ limit + f.unchecked
  idSize_le : f.decoder.pending.idSize ≤ limit + f.peak - 4

/-- The same decoder with a chunk in its buffer. -/
theorem Within.fed {limit : Nat} {f : Feeding} (h : f.Within limit) (chunk : Bytes) (d : Decoder)
    (hd : d = { f.decoder with buffer := f.decoder.buffer ++ chunk }) :
    d.retained ≤ limit + (f.unchecked + chunk.length) ∧
      d.idBound ≤ limit + max f.peak (f.unchecked + chunk.length) - 4 := by
  subst hd
  have hretained := h.retained_le
  have hid := h.idSize_le
  simp only [Decoder.retained, Decoder.idBound, List.length_append] at hretained ⊢
  omega

theorem Within.call {limit : Nat} {f : Feeding} (h : f.Within limit) (chunk : Bytes) :
    (f.call chunk).Within limit := by
  obtain ⟨hretained, hid⟩ := h.fed chunk _ rfl
  have hbounds := f.decoder.bounds_decode chunk
  have hlimit : (f.decoder.decode chunk).1.limit = limit := hbounds.limit_eq.trans h.limit_eq
  refine ⟨hlimit, ?_, ?_⟩
  · unfold Feeding.call
    simp only
    split
    · next events hok =>
      have hsize := f.decoder.retained_le_of_decode _ chunk events (Prod.ext rfl hok)
      rw [hlimit] at hsize
      exact hsize
    · exact hbounds.retained_le.trans hretained
  · have hpending : (f.decoder.decode chunk).1.pending.idSize ≤
        (f.decoder.decode chunk).1.idBound := Nat.le_max_left _ _
    exact hpending.trans (hbounds.idBound_le.trans hid)

theorem within_run (limit : Nat) (base64 : Bool) (chunks : List Bytes) :
    (run limit base64 chunks).Within limit := by
  induction chunks using List.reverseRecOn with
  | nil => exact ⟨rfl, Nat.zero_le _, Nat.zero_le _⟩
  | append_singleton chunks chunk ih =>
    rw [run, List.foldl_append]
    exact ih.call chunk

/-- After any calls, whether they succeeded or not, a call that succeeds keeps no more than the
limit beside the id. An event that it hands out, its id apart, exceeds the limit by less than
what was fed since the last call that succeeded, so not at all if bytes come one by one. An id
that is kept or handed out exceeds it, less four bytes, by no more than what was ever
fed between two calls that succeeded. -/
theorem decode_within_limit (limit : Nat) (base64 : Bool) (chunks : List Bytes) (chunk : Bytes)
    (d : Decoder) (events : List Event)
    (h : (run limit base64 chunks).decoder.decode chunk = (d, .ok events)) :
    d.retained ≤ limit ∧
      d.pending.idSize ≤ limit + (run limit base64 (chunks ++ [chunk])).peak - 4 ∧
      ∀ e ∈ events,
        e.textSize < limit + ((run limit base64 chunks).unchecked + chunk.length) ∧
        e.id.length ≤ limit + (run limit base64 (chunks ++ [chunk])).peak - 4 := by
  have hwithin := within_run limit base64 chunks
  have hnext : run limit base64 (chunks ++ [chunk]) = (run limit base64 chunks).call chunk := by
    rw [run, List.foldl_append]
    rfl
  have hbounds := (run limit base64 chunks).decoder.bounds_decode chunk
  have hsize := Decoder.retained_le_of_decode _ d chunk events h
  obtain ⟨hretained, hid⟩ := hwithin.fed chunk _ rfl
  rw [h] at hbounds
  rw [hnext]
  refine ⟨?_, ?_, ?_⟩
  · rw [← hwithin.limit_eq]
    exact hsize.trans hbounds.limit_eq.le
  · exact (Nat.le_max_left _ _).trans (hbounds.idBound_le.trans hid)
  · intro e he
    rcases hbounds.events events rfl e he with hmem | ⟨htext, hlength⟩
    · cases hmem
    · exact ⟨htext.trans_le hretained, hlength.trans hid⟩

def longLine : List Bytes := [Bytes.ofString "id:ab\n", Bytes.ofString "data: 123456"]

/-- The line is over the limit and refused. What ends it completes an event of six bytes. -/
theorem decode_within_limit_refused :
    (run 4 false longLine).decoder.decode [10, 10] =
        (.new 4 false, .ok [{ id := [97, 98], data := Bytes.ofString "123456" }]) ∧
      (run 4 false longLine).unchecked = 12 ∧
      ({ id := [97, 98], data := Bytes.ofString "123456" } : Event).textSize < 4 + (12 + 2) := by
  have hdecode : (run 4 false longLine).decoder.decode [10, 10] =
      (.new 4 false, .ok [{ id := [97, 98], data := Bytes.ofString "123456" }]) := by
    decide +kernel
  have hunchecked : (run 4 false longLine).unchecked = 12 := by decide +kernel
  obtain ⟨_, _, hevents⟩ := decode_within_limit 4 false longLine [10, 10] _ _ hdecode
  have hevent := (hevents _ (List.mem_singleton_self _)).1
  rw [hunchecked] at hevent
  exact ⟨hdecode, hunchecked, hevent⟩

/-- It is not so that no event has more bytes than the limit, nor that no more bytes are kept: a
frame that is closed in the call that brings it is not measured, and an id is not counted. -/
theorem decode_exceeds_limit :
    (¬∀ (limit : Nat) (base64 : Bool) (chunks : List Bytes) (chunk : Bytes) (d : Decoder)
        (events : List Event),
        (run limit base64 chunks).decoder.decode chunk = (d, .ok events) →
        ∀ e ∈ events, e.id.length + e.textSize ≤ limit) ∧
      ¬∀ (limit : Nat) (base64 : Bool) (chunks : List Bytes) (chunk : Bytes) (d : Decoder)
        (events : List Event),
        (run limit base64 chunks).decoder.decode chunk = (d, .ok events) →
        d.retained + d.pending.idSize ≤ limit := by
  constructor
  · intro hall
    have hevent := hall 4 false [] (Bytes.ofString "data: hello\n\n") (.new 4 false)
      [{ data := Bytes.ofString "hello" }] (by decide +kernel) { data := Bytes.ofString "hello" }
      (by decide +kernel)
    revert hevent
    decide +kernel
  · intro hall
    have hkept := hall 8 false [] (Bytes.ofString "id:12345\ndata:xyz")
      { limit := 8, base64 := false, buffer := Bytes.ofString "data:xyz"
        pending := { id := some (Bytes.ofString "12345"), touched := true } } [] (by decide +kernel)
    revert hkept
    decide +kernel

end Feeding

end Frame

end EventBroker
