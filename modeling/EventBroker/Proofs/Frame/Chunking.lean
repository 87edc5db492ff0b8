import EventBroker.Proofs.Frame.Drain

/-!
Cuts between chunks do not matter. A decoder that is fresh or comes out of successful
calls has nothing but an unfinished line left to read and is within its limit, so a row of
successful calls is one scan of the concatenated chunks. Feeding single bytes checks the
size after every beginning of the input; a row of other chunks checks it after some of
them only.
-/
namespace EventBroker.Frame.Decoder

/-- Calls the decoder on each chunk in turn, as long as the calls succeed. -/
def feed (d : Decoder) : List Bytes → Scanned
  | [] => .ok (d, [])
  | chunk :: rest =>
    match d.decode chunk with
    | (d', .ok events) => prepend events (feed d' rest)
    | (_, .error fault) => .error fault

/-- A decoder that is fresh, or that a successful call leaves behind. -/
inductive Reached : Decoder → Prop
  | new (limit : Nat) (base64 : Bool) : Reached (.new limit base64)
  | decode {d d' : Decoder} {chunk : Bytes} {events : List Event}
      (hd : Reached d) (h : d.decode chunk = (d', .ok events)) : Reached d'

structure Settled (d : Decoder) : Prop extends CaughtUp d where
  retained_le : d.retained ≤ d.limit

theorem settled_new (limit : Nat) (base64 : Bool) : Settled (.new limit base64) :=
  ⟨caughtUp_new limit base64, Nat.zero_le limit⟩

theorem Settled.decode (d d' : Decoder) (chunk : Bytes) (events : List Event) (hd : Settled d)
    (h : d.decode chunk = (d', .ok events)) : Settled d' := by
  obtain ⟨hscan, hsize⟩ := (decode_eq_ok_iff hd.toCaughtUp d' chunk events).mp h
  exact ⟨hd.toCaughtUp.scan chunk events hscan, hsize⟩

theorem Reached.settled (d : Decoder) (hd : Reached d) : Settled d := by
  induction hd with
  | new limit base64 => exact settled_new limit base64
  | decode _ h ih => exact Settled.decode _ _ _ _ ih h

theorem feed_cons_ok (d : Decoder) (chunk : Bytes) (rest : List Bytes) (r : Decoder × List Event)
    (h : d.feed (chunk :: rest) = .ok r) :
    ∃ d₁ events later, d.decode chunk = (d₁, .ok events) ∧ d₁.feed rest = .ok (r.1, later) ∧
      r.2 = events ++ later := by
  rcases hdecode : d.decode chunk with ⟨d₁, fault | events⟩
  · simp only [feed, hdecode] at h
    cases h
  · simp only [feed, hdecode] at h
    obtain ⟨later, hrest, heq⟩ := prepend_eq_ok _ _ _ _ h
    exact ⟨d₁, events, later, rfl, hrest, heq⟩

theorem feed_cons (d d₁ : Decoder) (chunk : Bytes) (rest : List Bytes) (events : List Event)
    (h : d.decode chunk = (d₁, .ok events)) :
    d.feed (chunk :: rest) = prepend events (d₁.feed rest) := by
  simp only [feed, h]

/-- Successful calls are one scan of the concatenated chunks. -/
theorem scan_of_feed (d : Decoder) (chunks : List Bytes) (r : Decoder × List Event)
    (hd : Settled d) (h : d.feed chunks = .ok r) : d.scan chunks.flatten = .ok r := by
  induction chunks generalizing d r with
  | nil => exact h
  | cons chunk rest ih =>
    obtain ⟨d₁, events, later, hdecode, hrest, hr⟩ := feed_cons_ok d chunk rest r h
    have hscan := ((decode_eq_ok_iff hd.toCaughtUp d₁ chunk events).mp hdecode).1
    have hd₁ := Settled.decode d d₁ chunk events hd hdecode
    rw [List.flatten_cons, scan_append d d₁ chunk _ events hscan,
      ih d₁ (r.1, later) hd₁ hrest, prepend_ok, ← hr]

def Fits (d : Decoder) (s : Bytes) : Prop :=
  ∀ p, p <+: s → ∃ d' events, d.scan p = .ok (d', events) ∧ d'.retained ≤ d'.limit

theorem fits_of_feed_bytes (d : Decoder) (s : Bytes) (r : Decoder × List Event)
    (hd : Settled d) (h : d.feed (s.map fun b => [b]) = .ok r) : Fits d s := by
  induction s generalizing d r with
  | nil =>
    intro p hp
    rw [List.prefix_nil.mp hp]
    exact ⟨d, [], rfl, hd.retained_le⟩
  | cons b s ih =>
    intro p hp
    obtain ⟨d₁, events, later, hdecode, hrest, _⟩ := feed_cons_ok d [b] _ r h
    have hscan := ((decode_eq_ok_iff hd.toCaughtUp d₁ [b] events).mp hdecode).1
    have hd₁ := Settled.decode d d₁ [b] events hd hdecode
    rcases List.prefix_cons_iff.mp hp with rfl | ⟨q, rfl, hq⟩
    · exact ⟨d, [], rfl, hd.retained_le⟩
    · obtain ⟨d₂, found, hq₂, hsize⟩ := ih d₁ _ hd₁ hrest q hq
      refine ⟨d₂, events ++ found, ?_, hsize⟩
      rw [← List.singleton_append, scan_append d d₁ [b] q events hscan, hq₂, prepend_ok]

theorem Fits.append (d d₁ : Decoder) (s t : Bytes) (events : List Event)
    (h : Fits d (s ++ t)) (hs : d.scan s = .ok (d₁, events)) : Fits d₁ t := by
  intro p hp
  obtain ⟨d₂, all, hscan, hsize⟩ := h (s ++ p) ((List.prefix_append_right_inj s).mpr hp)
  rw [scan_append d d₁ s p events hs] at hscan
  obtain ⟨later, hp₂, _⟩ := prepend_eq_ok _ _ _ _ hscan
  exact ⟨d₂, later, hp₂, hsize⟩

theorem exists_feed_of_fits (d : Decoder) (chunks : List Bytes) (hd : Settled d)
    (h : Fits d chunks.flatten) : ∃ r, d.feed chunks = .ok r := by
  induction chunks generalizing d with
  | nil => exact ⟨(d, []), rfl⟩
  | cons chunk rest ih =>
    rw [List.flatten_cons] at h
    obtain ⟨d₁, events, hscan, hsize⟩ := h chunk (List.prefix_append chunk _)
    have hdecode := (decode_eq_ok_iff hd.toCaughtUp d₁ chunk events).mpr ⟨hscan, hsize⟩
    obtain ⟨⟨d₂, later⟩, hrest⟩ :=
      ih d₁ (Settled.decode d d₁ chunk events hd hdecode) (h.append d d₁ chunk _ events hscan)
    refine ⟨(d₂, events ++ later), ?_⟩
    rw [feed_cons d d₁ chunk rest events hdecode, hrest, prepend_ok]

/-- Two successful ways of cutting a text give the same events and the same decoder, and
where single bytes can be fed, so can any other chunks, with that outcome. -/
theorem feed_invariant_under_cuts (d : Decoder) (hd : d.Reached) (s : Bytes) :
    (∀ xs ys rx ry, xs.flatten = s → ys.flatten = s →
      d.feed xs = .ok rx → d.feed ys = .ok ry → rx = ry) ∧
    (∀ r, d.feed (s.map fun b => [b]) = .ok r → ∀ xs, xs.flatten = s → d.feed xs = .ok r) := by
  have hsettled := hd.settled
  have hsame : ∀ xs ys rx ry, xs.flatten = s → ys.flatten = s →
      d.feed xs = .ok rx → d.feed ys = .ok ry → rx = ry := by
    intro xs ys rx ry hxs hys hx hy
    have hscanx := scan_of_feed d xs rx hsettled hx
    have hscany := scan_of_feed d ys ry hsettled hy
    rw [hxs] at hscanx
    rw [hys, hscanx] at hscany
    exact Except.ok.inj hscany
  refine ⟨hsame, ?_⟩
  intro r hr xs hxs
  have hfits := fits_of_feed_bytes d s r hsettled hr
  rw [← hxs] at hfits
  obtain ⟨r', hr'⟩ := exists_feed_of_fits d xs hsettled hfits
  have hbytes : (s.map fun b => [b]).flatten = s := by
    rw [← List.flatMap_def, List.flatMap_singleton']
  rw [hr', hsame xs _ r' r hxs hbytes hr' hr]

/-- Cuts inside a pair of carriage return and line feed, and between two blank lines. -/
theorem feed_invariant_under_cuts_crlf :
    (new 16 false).Reached ∧
    ∃ r,
      (new 16 false).feed ([100, 97, 116, 97, 58, 120, 13, 10, 13, 10].map fun b => [b]) = .ok r ∧
      r.2 = [{ data := [120] }] ∧
      (new 16 false).feed [[100, 97, 116, 97, 58, 120, 13], [], [10, 13], [10]] = .ok r := by
  have hbytes : (new 16 false).feed
      ([100, 97, 116, 97, 58, 120, 13, 10, 13, 10].map fun b => [b]) =
        .ok (new 16 false, [{ data := [120] }]) := by decide +kernel
  refine ⟨.new 16 false, _, hbytes, rfl, ?_⟩
  exact (feed_invariant_under_cuts (new 16 false) (.new 16 false)
    [100, 97, 116, 97, 58, 120, 13, 10, 13, 10]).2 _ hbytes _ rfl

end EventBroker.Frame.Decoder
