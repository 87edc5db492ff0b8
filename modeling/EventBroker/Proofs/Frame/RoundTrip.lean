import EventBroker.Proofs.Base64
import EventBroker.Proofs.Decimal
import EventBroker.Proofs.Frame.Drain
import EventBroker.Proofs.Frame.Fields

/-!
Decoding undoes encoding. Section by section the lines of an event fill the frame under way,
and the blank line at the end gives the event back and leaves the decoder as if it were
fresh. Each field that is read depends on the same field of the event alone.
-/
namespace EventBroker.Frame

open Bytes

def idSection (id : Bytes) : Bytes := if id.isEmpty then [] else field idField (singleLine id)

def nameSection (name : Bytes) : Bytes :=
  if name.isEmpty then [] else field nameField (singleLine name)

def retrySection (retry : Option Duration) : Bytes :=
  retry.elim [] fun delay => field retryField (Decimal.encode delay.toMillis)

/-- A frame in its five sections and the blank line. -/
theorem encode_eq (base64 : Bool) (e : Event) :
    encode base64 e = fieldLines [] (lines e.comment) ++ idSection e.id ++ nameSection e.name
      ++ retrySection e.retry ++ fieldLines dataField (dataLines base64 e) ++ [lineFeed] := by
  unfold encode retrySection
  cases e.retry <;> rfl

/-- What a reader gets for an id: its bytes other than line breaks, none at all if there is a zero
byte among them. -/
def readId (id : Bytes) : Bytes :=
  let kept := id.filter fun b => b ≠ 10 ∧ b ≠ 13
  if 0 ∈ kept then [] else kept

def readName (name : Bytes) : Bytes := name.filter fun b => b ≠ 10 ∧ b ≠ 13

def readData (base64 : Bool) (data : Bytes) : Bytes :=
  if base64 then data else unifyBreaks data

def readComment (comment : Bytes) : Bytes := (unifyBreaks comment).dropWhile (· == lineFeed)

def readRetry (retry : Option Duration) : Option Duration :=
  retry.bind fun delay =>
    let millis := delay.nanos / 1000000
    if millis < 18446744073709551616 then some ⟨millis * 1000000⟩ else none

def received (base64 : Bool) (e : Event) : Event :=
  { id := readId e.id, name := readName e.name, data := readData base64 e.data,
    comment := readComment e.comment, retry := readRetry e.retry }

def hasField (e : Event) : Bool :=
  !e.comment.isEmpty || !e.id.isEmpty || !e.name.isEmpty || e.retry.isSome || !e.data.isEmpty

theorem readId_eq (id : Bytes) :
    readId id = if (singleLine id).contains 0 then [] else singleLine id := by
  rw [readId, singleLine_eq_filter]
  simp only [List.contains_iff_mem]

theorem readName_eq (name : Bytes) : readName name = singleLine name :=
  (singleLine_eq_filter name).symm

theorem readRetry_some (delay : Duration) :
    readRetry (some delay) =
      if delay.toMillis < Decimal.wordLimit then some (.ofMillis delay.toMillis) else none := rfl

theorem hasField_iff (e : Event) :
    hasField e = true ↔
      e.comment ≠ [] ∨ e.id ≠ [] ∨ e.name ≠ [] ∨ e.retry ≠ none ∨ e.data ≠ [] := by
  simp only [hasField, Bool.or_eq_true, Bool.not_eq_true', List.isEmpty_eq_false_iff,
    Option.isSome_iff_ne_none, or_assoc]

namespace Pending

def ofEvent (base64 : Bool) (e : Event) : Pending :=
  { id := if e.id.isEmpty || (singleLine e.id).contains 0 then none else some (singleLine e.id)
    name := singleLine e.name
    data := (dataLines base64 e).reverse
    comment := ((lines e.comment).dropWhile (·.isEmpty)).reverse
    retry := readRetry e.retry
    touched := hasField e }

/-- The same frame, with the marks that its five sections leave one after another. -/
theorem ofEvent_eq (base64 : Bool) (e : Event) :
    ofEvent base64 e =
      { id := if e.id.isEmpty || (singleLine e.id).contains 0 then none else some (singleLine e.id)
        name := if e.name.isEmpty then [] else singleLine e.name
        data := (dataLines base64 e).reverse ++ []
        comment := ((lines e.comment).dropWhile (·.isEmpty)).reverse
        retry := if e.retry.isSome then readRetry e.retry else none
        touched := ((((false || !(lines e.comment).isEmpty) || !e.id.isEmpty) || !e.name.isEmpty)
          || e.retry.isSome) || !(dataLines base64 e).isEmpty } := by
  have hcomment : (lines e.comment).isEmpty = e.comment.isEmpty := by
    rw [Bool.eq_iff_iff, List.isEmpty_iff, List.isEmpty_iff, lines_eq_nil_iff]
  have hdata : (!(dataLines base64 e).isEmpty) = e.hasData := by
    unfold dataLines
    split
    · rename_i h
      exact (Bool.and_eq_true_iff.mp h).2.symm
    · rw [Event.hasData, Bool.not_inj_iff, Bool.eq_iff_iff, List.isEmpty_iff, List.isEmpty_iff,
        lines_eq_nil_iff]
  have hname : (if e.name.isEmpty then [] else singleLine e.name) = singleLine e.name := by
    cases e.name <;> rfl
  have hretry : (if e.retry.isSome then readRetry e.retry else none) = readRetry e.retry := by
    cases e.retry <;> rfl
  rw [hcomment, hdata, hname, hretry, List.append_nil, Bool.false_or]
  rfl

theorem foldl_put_data (p : Pending) (values : List Bytes) :
    values.foldl (·.put dataField) p =
      { p with touched := p.touched || !values.isEmpty, data := values.reverse ++ p.data } := by
  induction values generalizing p with
  | nil => simp
  | cons v values ih =>
    rw [List.foldl_cons, put_data, ih]
    simp

theorem foldl_put_comment_of_ne_nil (p : Pending) (values : List Bytes) (hp : p.comment ≠ []) :
    values.foldl (·.put []) p =
      { p with touched := p.touched || !values.isEmpty
               comment := values.reverse ++ p.comment } := by
  induction values generalizing p with
  | nil => simp
  | cons v values ih =>
    have hput : p.put [] v = { p with touched := true, comment := v :: p.comment } := by
      simp [put_comment, addComment, hp]
    rw [List.foldl_cons, hput, ih _ (List.cons_ne_nil _ _)]
    simp

theorem foldl_put_comment (p : Pending) (values : List Bytes) (hp : p.comment = []) :
    values.foldl (·.put []) p =
      { p with touched := p.touched || !values.isEmpty
               comment := (values.dropWhile (·.isEmpty)).reverse } := by
  induction values generalizing p with
  | nil =>
    obtain ⟨id, name, data, comment, retry, touched⟩ := p
    obtain rfl : comment = [] := hp
    simp
  | cons v values ih =>
    rw [List.foldl_cons]
    cases v with
    | nil =>
      have hput : p.put [] [] = { p with touched := true } := by
        simp [put_comment, addComment, hp]
      rw [hput, ih { p with touched := true } hp]
      simp
    | cons b v =>
      have hput : p.put [] (b :: v) = { p with touched := true, comment := [b :: v] } := by
        simp [put_comment, addComment, hp]
      rw [hput, foldl_put_comment_of_ne_nil _ _ (List.cons_ne_nil _ _)]
      simp

theorem setRetry_encode (p : Pending) (n : Nat) :
    p.setRetry (Decimal.encode n) =
      { p with retry := if n < Decimal.wordLimit then some (.ofMillis n) else none } := by
  unfold setRetry
  rw [Decimal.natural_encode]
  simp only [Decimal.belowWordLimit]
  split <;> rfl

theorem comment_text (comment : Bytes) :
    joinLines ((lines comment).dropWhile (·.isEmpty)).reverse = readComment comment := by
  unfold joinLines readComment
  rw [List.reverse_reverse, intercalate_dropWhile _ (isLine_of_mem_lines comment),
    intercalate_lines]

theorem data_text (base64 : Bool) (e : Event) :
    joinLines (dataLines base64 e).reverse =
      if base64 && e.hasData then Base64.encode e.data else unifyBreaks e.data := by
  unfold joinLines dataLines
  rw [List.reverse_reverse]
  split
  · simp [List.intercalate]
  · exact intercalate_lines e.data

theorem ofEvent_id (base64 : Bool) (e : Event) : (ofEvent base64 e).id.getD [] = readId e.id := by
  rw [readId_eq]
  unfold ofEvent
  cases hid : e.id with
  | nil => rfl
  | cons b id =>
    simp only [List.isEmpty_cons, Bool.false_or]
    split <;> rfl

theorem close_of_text (base64 : Bool) (p : Pending) (data : Bytes) (htouched : p.touched = true)
    (htext : (base64 = true ∧ data ≠ [] ∧ joinLines p.data = Base64.encode data) ∨
      ((base64 = false ∨ data = []) ∧ joinLines p.data = data)) :
    p.close base64 = some (.ok
      { id := p.id.getD [], name := p.name, data, comment := joinLines p.comment,
        retry := p.retry }) := by
  unfold close
  rcases htext with ⟨rfl, hne, htext⟩ | ⟨hplain, htext⟩
  · have hencoded : (Base64.encode data).isEmpty = false :=
      List.isEmpty_eq_false_iff.mpr (Base64.encode_ne_nil data hne)
    simp only [htouched, htext, hencoded, Base64.decode_encode, Bool.not_true, Bool.not_false,
      Bool.and_self, Bool.false_eq_true, if_false, if_true]
  · have hskip : (base64 && !data.isEmpty) = false := by
      rcases hplain with rfl | rfl
      · rfl
      · exact Bool.and_false base64
    simp only [htouched, htext, hskip, Bool.not_true, Bool.false_eq_true, if_false]

/-- Closing the frame of an event gives what a reader gets, if the event has any field. -/
theorem close_ofEvent (base64 : Bool) (e : Event) :
    (ofEvent base64 e).close base64 =
      (if hasField e then some (received base64 e) else none).map .ok := by
  by_cases hfield : hasField e = true
  · have htext := data_text base64 e
    have hclose := close_of_text base64 (ofEvent base64 e) (readData base64 e.data) hfield (by
      by_cases hdata : (base64 && e.hasData) = true
      · rw [if_pos hdata] at htext
        obtain ⟨rfl, hdata⟩ := Bool.and_eq_true_iff.mp hdata
        exact Or.inl ⟨rfl, by simpa [Event.hasData, readData] using hdata, htext⟩
      · rw [if_neg hdata] at htext
        refine Or.inr ?_
        cases base64 with
        | false => exact ⟨Or.inl rfl, htext⟩
        | true =>
          have hnil : e.data = [] := by simpa [Event.hasData] using hdata
          exact ⟨Or.inr hnil, htext.trans (by rw [hnil]; rfl)⟩)
    have hcomment : joinLines (ofEvent base64 e).comment = readComment e.comment :=
      comment_text e.comment
    rw [hclose, if_pos hfield, ofEvent_id, hcomment, received, readName_eq]
    rfl
  · have htouched : (ofEvent base64 e).touched = false := by simpa [ofEvent] using hfield
    rw [if_neg hfield]
    simp only [close, htouched, Bool.not_false, if_true, Option.map_none]

end Pending

namespace Decoder

variable (limit : Nat) (base64 : Bool) (p : Pending)

theorem scan_idSection (id rest : Bytes) :
    (reading limit base64 p).scan (idSection id ++ rest) =
      (reading limit base64
        { p with touched := p.touched || !id.isEmpty
                 id := if id.isEmpty || (singleLine id).contains 0 then p.id
                   else some (singleLine id) }).scan rest := by
  unfold idSection
  cases id with
  | nil => simp
  | cons b id =>
    simp only [List.isEmpty_cons, Bool.false_eq_true, if_false, Bool.not_false, Bool.or_true,
      Bool.false_or]
    rw [scan_field limit base64 p _ _ rest isFieldName_idField (isLine_singleLine _),
      Pending.put_id]
    unfold Pending.setId
    split <;> rfl

theorem scan_nameSection (name rest : Bytes) :
    (reading limit base64 p).scan (nameSection name ++ rest) =
      (reading limit base64
        { p with touched := p.touched || !name.isEmpty
                 name := if name.isEmpty then p.name else singleLine name }).scan rest := by
  unfold nameSection
  cases name with
  | nil => simp
  | cons b name =>
    simp only [List.isEmpty_cons, Bool.false_eq_true, if_false, Bool.not_false, Bool.or_true]
    rw [scan_field limit base64 p _ _ rest isFieldName_nameField (isLine_singleLine _),
      Pending.put_name]

theorem isLine_decimal (n : Nat) : IsLine (Decimal.encode n) := by
  intro b hb
  have hdigit := Decimal.isDigit_of_mem_encode n b hb
  apply (isTerminator_eq_false_iff b).mpr
  constructor
  · rintro rfl
    exact absurd hdigit (by decide)
  · rintro rfl
    exact absurd hdigit (by decide)

theorem isLine_base64 (s : Bytes) : IsLine (Base64.encode s) := by
  have hsymbol : ∀ n, n < 64 → isTerminator (Base64.symbol n) = false := by decide
  intro b hb
  rcases Base64.isWritten_of_mem_encode s b hb with rfl | ⟨n, hn, rfl⟩
  · rfl
  · exact hsymbol n hn

theorem isLine_of_mem_dataLines (e : Event) (l : Bytes) (hl : l ∈ dataLines base64 e) :
    IsLine l := by
  unfold dataLines at hl
  split at hl
  · rw [List.mem_singleton.mp hl]
    exact isLine_base64 e.data
  · exact isLine_of_mem_lines e.data l hl

theorem scan_retrySection (retry : Option Duration) (rest : Bytes) :
    (reading limit base64 p).scan (retrySection retry ++ rest) =
      (reading limit base64
        { p with touched := p.touched || retry.isSome
                 retry := if retry.isSome then readRetry retry else p.retry }).scan rest := by
  unfold retrySection
  cases retry with
  | none => simp
  | some delay =>
    simp only [Option.elim_some]
    rw [scan_field limit base64 p _ _ rest isFieldName_retryField (isLine_decimal _),
      Pending.put_retry, Pending.setRetry_encode, readRetry_some]
    simp

/-- The lines of an event lead from an empty frame to the one that holds its fields. -/
theorem scan_sections (e : Event) (rest : Bytes) :
    (new limit base64).scan (encode base64 e ++ rest) =
      (reading limit base64 (.ofEvent base64 e)).scan (lineFeed :: rest) := by
  change (reading limit base64 {}).scan _ = _
  rw [encode_eq]
  simp only [List.append_assoc]
  rw [scan_fieldLines limit base64 _ _ _ _ isFieldName_nil (isLine_of_mem_lines e.comment),
    Pending.foldl_put_comment _ _ rfl, scan_idSection, scan_nameSection, scan_retrySection,
    scan_fieldLines limit base64 _ _ _ _ isFieldName_dataField (isLine_of_mem_dataLines base64 e),
    Pending.foldl_put_data, Pending.ofEvent_eq]
  rfl

/-- The frame of an event is read whole, and the decoder is as fresh as before. -/
theorem scan_encode (e : Event) (rest : Bytes) :
    (new limit base64).scan (encode base64 e ++ rest) =
      prepend (if hasField e then some (received base64 e) else none).toList
        ((new limit base64).scan rest) := by
  rw [scan_sections]
  exact scan_blank limit base64 _ rest _ (Pending.close_ofEvent base64 e)

/-- Frames in a row are read one by one. -/
theorem scan_flatMap_encode (events : List Event) :
    (new limit base64).scan (events.flatMap (encode base64)) =
      .ok (new limit base64, (events.filter hasField).map (received base64)) := by
  induction events with
  | nil => rfl
  | cons e events ih =>
    rw [List.flatMap_cons, scan_encode, ih, prepend_ok]
    by_cases hfield : hasField e = true
    · rw [if_pos hfield, List.filter_cons_of_pos hfield]
      rfl
    · rw [if_neg hfield, List.filter_cons_of_neg hfield]
      rfl

/-- One call on the frames of any events gives one event for each of them that has a field set, and
every field that is read comes from the same field alone: the id and the name less their line
breaks, the id only if no zero byte is left in it, the data as they are in base64 and with their
breaks unified in plain text, the delay in whole milliseconds below 2 ^ 64. -/
theorem decode_flatMap_encode (events : List Event) :
    ∃ arrived, (new limit base64).decode (events.flatMap (encode base64)) =
        (new limit base64, .ok arrived) ∧
      arrived.map (fun a => (a.id, a.name, a.data, a.retry)) =
        (events.filter fun e =>
            e.comment ≠ [] ∨ e.id ≠ [] ∨ e.name ≠ [] ∨ e.retry ≠ none ∨ e.data ≠ []).map fun e =>
          let id := e.id.filter fun b => b ≠ 10 ∧ b ≠ 13
          let millis (delay : Duration) := delay.nanos / 1000000
          (if 0 ∈ id then [] else id,
            e.name.filter fun b => b ≠ 10 ∧ b ≠ 13,
            if base64 then e.data else unifyBreaks e.data,
            e.retry.bind fun delay =>
              if millis delay < 18446744073709551616 then some ⟨millis delay * 1000000⟩
              else none) := by
  refine ⟨(events.filter hasField).map (received base64), ?_, ?_⟩
  · apply (decode_eq_ok_iff (caughtUp_new limit base64) _ _ _).mpr
    exact ⟨scan_flatMap_encode limit base64 events, Nat.zero_le limit⟩
  · have hfields : events.filter hasField = events.filter fun e =>
        e.comment ≠ [] ∨ e.id ≠ [] ∨ e.name ≠ [] ∨ e.retry ≠ none ∨ e.data ≠ [] := by
      refine List.filter_congr fun e _ => ?_
      rw [Bool.eq_iff_iff, hasField_iff, decide_eq_true_iff]
    rw [hfields, List.map_map]
    rfl

/-- Events with line breaks in every place, a zero byte in an id, fields in the text of others, and
a delay that is too long by a millisecond; the third has no field set. -/
def crossed : List Event :=
  [{ id := Bytes.ofString "1\r\ndata: 2", name := Bytes.ofString "a\n\nid: 3"
     data := Bytes.ofString "x\r\ny\rz\n", comment := Bytes.ofString "\nretry: 4"
     retry := some ⟨1999999⟩ },
    { id := [55, 0], data := Bytes.ofString ": \n\nb" }, {},
    { id := [13], retry := some ⟨18446744073709551616000000⟩ }]

theorem decode_flatMap_encode_crossed :
    (∃ arrived, (new 8 false).decode (crossed.flatMap (encode false)) =
        (new 8 false, .ok arrived) ∧
      arrived.map (fun a => (a.id, a.name, a.data, a.retry)) =
        [(Bytes.ofString "1data: 2", Bytes.ofString "aid: 3", Bytes.ofString "x\ny\nz\n",
            some ⟨1000000⟩),
          ([], [], Bytes.ofString ": \n\nb", none), ([], [], [], none)]) ∧
      ∃ arrived, (new 0 true).decode (crossed.flatMap (encode true)) = (new 0 true, .ok arrived) ∧
        arrived.map (·.data) =
          [Bytes.ofString "x\r\ny\rz\n", Bytes.ofString ": \n\nb", []] := by
  obtain ⟨plain, hplain, hfields⟩ := decode_flatMap_encode 8 false crossed
  obtain ⟨coded, hcoded, hsame⟩ := decode_flatMap_encode 0 true crossed
  refine ⟨⟨plain, hplain, hfields.trans (by decide +kernel)⟩, coded, hcoded, ?_⟩
  have hdata := congrArg (List.map fun fields => fields.2.2.1) hsame
  rw [List.map_map] at hdata
  exact hdata.trans (by decide +kernel)

end Decoder

end EventBroker.Frame
