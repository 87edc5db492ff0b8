import EventBroker.Proofs.Client.Reading
import EventBroker.Proofs.EventStream.Numbered
import EventBroker.Proofs.Frame.Body

/-!
How far a client is in a stream that numbers its events. It remembers the number of the
last event that it delivered. The events behind that one which it has already passed had
no data, so that nothing is lost when they are sent again.
-/
namespace EventBroker.Client

open EventStream (numbered numberedFrom idAt)
open EventBroker.Frame (heard received)

/-- The events with data that come out of a stream, each with its number as id. -/
def arrivals (base64 : Bool) (published : List Event) : List Event :=
  ((published.zipIdx 1).filter fun (e, _) => e.hasData).map fun (e, n) =>
    { received base64 e with id := Decimal.encode n }

theorem readId_encode (n : Nat) : Frame.readId (Decimal.encode n) = Decimal.encode n := by
  have hline : Frame.singleLine (Decimal.encode n) = Decimal.encode n :=
    Frame.singleLine_of_isLine _ (Frame.Decoder.isLine_decimal n)
  have hzero : (Decimal.encode n).contains 0 = false := by
    rw [Bool.eq_false_iff, ne_eq, List.contains_iff_mem]
    intro h
    exact absurd (Decimal.isDigit_of_mem_encode n 0 h) (by decide)
  rw [Frame.readId_eq, hline, hzero, if_neg Bool.false_ne_true]

theorem received_numbered (base64 : Bool) (e : Event) (n : Nat) :
    received base64 { e with id := Decimal.encode n } =
      { received base64 e with id := Decimal.encode n } := by
  unfold received
  simp only [readId_encode]

theorem arrivals_eq (base64 : Bool) (published : List Event) :
    arrivals base64 published =
      ((numbered published).filter (·.hasData)).map (received base64) := by
  unfold arrivals numbered numberedFrom
  rw [List.filter_map, List.map_map]
  congr 1
  funext ⟨e, n⟩
  exact (received_numbered base64 e n).symm

theorem getElem?_numbered (published : List Event) (n : Nat) :
    (numbered published)[n]? =
      published[n]?.map fun e => { e with id := Decimal.encode (n + 1) } := by
  unfold numbered numberedFrom
  rw [List.getElem?_map, List.getElem?_zipIdx, Option.map_map, Nat.add_comm]
  rfl

/-- What comes next behind `n` events has the number `n + 1`. -/
theorem next_numbered (published rest : List Event) (n : Nat) (e : Event)
    (h : (numbered published).drop n = e :: rest) :
    e.id = Decimal.encode (n + 1) ∧ (numbered published).drop (n + 1) = rest ∧
      (numbered published).take (n + 1) = (numbered published).take n ++ [e] := by
  have hget : (numbered published)[n]? = some e := by
    have hzero : ((numbered published).drop n)[0]? = some e := by rw [h, List.getElem?_cons_zero]
    rwa [List.getElem?_drop, Nat.add_zero] at hzero
  refine ⟨?_, ?_, ?_⟩
  · rw [getElem?_numbered, Option.map_eq_some_iff] at hget
    obtain ⟨raw, _, rfl⟩ := hget
    rfl
  · have htail := congrArg List.tail h
    rwa [List.tail_drop, List.tail_cons] at htail
  · rw [List.take_add_one, hget, Option.toList_some]

/-- Where a client is that has passed some events of a stream and remembers the number of
the last one that it delivered. -/
structure Position (base64 : Bool) (published : List Event) (last passed : Nat)
    (lastEventId : Bytes) (delivered : List Event) : Prop where
  last_le : last ≤ passed
  remembers : lastEventId = idAt last
  latest : lastEventId = (delivered.getLast?.map (·.id)).getD []
  delivered_eq : delivered =
    (((numbered published).take last).filter (·.hasData)).map (received base64)
  silent : ((numbered published).take passed).filter (·.hasData) =
    ((numbered published).take last).filter (·.hasData)

variable {base64 : Bool} {published : List Event} {last passed : Nat} {before : List Event}

/-- What is published later does not move a client. -/
theorem Position.append {lastEventId : Bytes} {delivered : List Event}
    (h : Position base64 published last passed lastEventId delivered)
    (hpassed : passed ≤ published.length) (news : List Event) :
    Position base64 (published ++ news) last passed lastEventId delivered := by
  have htake : ∀ n, n ≤ published.length →
      (numbered (published ++ news)).take n = (numbered published).take n := by
    intro n hn
    rw [EventStream.numbered_append, List.take_append_of_le_length]
    rw [EventStream.length_numbered]
    exact hn
  have hlast := htake last (Nat.le_trans h.last_le hpassed)
  refine ⟨h.last_le, h.remembers, h.latest, ?_, ?_⟩
  · rw [hlast]
    exact h.delivered_eq
  · rw [hlast, htake passed hpassed]
    exact h.silent

/-- The next event of the stream is handled. -/
theorem Position.handle {state : Client × List Event}
    (h : Position base64 published last passed state.1.lastEventId (before ++ state.2.reverse))
    (e : Event) (rest : List Event) (hnext : (numbered published).drop passed = e :: rest) :
    ∃ last', Position base64 published last' (passed + 1)
      (handle state (received base64 e)).1.lastEventId
      (before ++ (handle state (received base64 e)).2.reverse) := by
  obtain ⟨hid, _, htake⟩ := next_numbered published rest passed e hnext
  have hdata := Frame.received_hasData base64 e
  have hreceived : (received base64 e).id = Decimal.encode (passed + 1) := by
    rw [received, hid]
    exact readId_encode (passed + 1)
  have hnonempty : (received base64 e).id.isEmpty = false := by
    rw [hreceived, List.isEmpty_eq_false_iff]
    exact Decimal.encode_ne_nil _
  have hfirst := (handle_fst state (received base64 e)).1
  have hsecond := handle_snd state (received base64 e)
  cases he : e.hasData with
  | false =>
    rw [he] at hdata
    rw [hdata, Bool.false_and, if_neg Bool.false_ne_true] at hfirst
    rw [List.filter_cons_of_neg (by rw [hdata]; exact Bool.false_ne_true)] at hsecond
    rw [hfirst, hsecond]
    refine ⟨last, Nat.le_succ_of_le h.last_le, h.remembers, h.latest, h.delivered_eq, ?_⟩
    rw [htake, List.filter_append, List.filter_cons_of_neg (by rw [he]; exact Bool.false_ne_true)]
    exact (List.append_nil _).trans h.silent
  | true =>
    rw [he] at hdata
    rw [hdata, hnonempty, hreceived] at hfirst
    rw [List.filter_cons_of_pos hdata] at hsecond
    rw [hfirst, hsecond]
    refine ⟨passed + 1, Nat.le_refl _, rfl, ?_, ?_, rfl⟩
    · simp [hreceived]
    · rw [htake, List.filter_append, h.silent, List.map_append, ← h.delivered_eq,
        List.filter_cons_of_pos he]
      simp

/-- The first things of a body are handled. -/
theorem Position.foldl_handle (said : List (Option Event)) (state : Client × List Event)
    (h : Position base64 published last passed state.1.lastEventId (before ++ state.2.reverse))
    (hsaid : said.filterMap id <+: (numbered published).drop passed) :
    ∃ last', Position base64 published last' (passed + (said.filterMap id).length)
      ((said.map (heard base64)).foldl Client.handle state).1.lastEventId
      (before ++ ((said.map (heard base64)).foldl Client.handle state).2.reverse) := by
  induction said generalizing state last passed with
  | nil => exact ⟨last, h⟩
  | cons item said ih =>
    rw [List.map_cons, List.foldl_cons]
    cases item with
    | none =>
      have hsame : Position base64 published last passed
          (Client.handle state {}).1.lastEventId
          (before ++ (Client.handle state {}).2.reverse) := by
        rw [(handle_fst state {}).1, handle_snd state {}]
        exact h
      exact ih _ hsame hsaid
    | some e =>
      have hcons : (some e :: said).filterMap id = e :: said.filterMap id := rfl
      rw [hcons] at hsaid ⊢
      obtain ⟨rest, hrest⟩ := hsaid
      have hnext : (numbered published).drop passed = e :: (said.filterMap id ++ rest) :=
        hrest.symm
      obtain ⟨last', h'⟩ := h.handle e _ hnext
      have hlength : passed + (e :: said.filterMap id).length =
          passed + 1 + (said.filterMap id).length := by
        rw [List.length_cons]
        omega
      have hlater : said.filterMap id <+: (numbered published).drop (passed + 1) := by
        rw [(next_numbered published _ passed e hnext).2.1]
        exact List.prefix_append _ rest
      rw [hlength]
      exact ih _ h' hlater

end EventBroker.Client
