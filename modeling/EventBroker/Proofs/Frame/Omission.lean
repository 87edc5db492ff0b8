import EventBroker.Proofs.Frame.Body
import EventBroker.Proofs.Frame.Chunking

/-!
Reading with the keep-alives left out. They stand between whole frames, where a decoder is
as good as new, and what they add there is an event without any field. So any beginning of
a row of frames is read alike with them and without them, up to such events: the same
frames are refused, and where the limit is not zero, what is retained is too large in both
or in neither.
-/
namespace EventBroker.Frame

open Bytes

/-- The bytes of frames in a row, each with whether it belongs to a keep-alive. -/
def marked (frames : List Bytes) : List (UInt8 × Bool) :=
  frames.flatMap fun f => f.map fun b => (b, f == keepAlive)

def whole (received : List (UInt8 × Bool)) : Bytes := received.map (·.1)

def bare (received : List (UInt8 × Bool)) : Bytes := (received.filter (!·.2)).map (·.1)

theorem whole_append (front back : List (UInt8 × Bool)) :
    whole (front ++ back) = whole front ++ whole back := List.map_append

theorem bare_append (front back : List (UInt8 × Bool)) :
    bare (front ++ back) = bare front ++ bare back := by
  rw [bare, List.filter_append, List.map_append]
  rfl

theorem whole_flatten (chunks : List (List (UInt8 × Bool))) :
    whole chunks.flatten = (chunks.map whole).flatten := List.map_flatten

theorem bare_flatten (chunks : List (List (UInt8 × Bool))) :
    bare chunks.flatten = (chunks.map bare).flatten := by
  rw [bare, List.filter_flatten, List.map_flatten, List.map_map]
  rfl

theorem whole_map (f : Bytes) (mark : Bool) : whole (f.map (·, mark)) = f := by
  rw [whole, List.map_map]
  exact List.map_id f

theorem whole_marked (frames : List Bytes) : whole (marked frames) = frames.flatten := by
  rw [whole, marked, List.map_flatMap, List.flatten_eq_flatMap]
  exact congrArg (frames.flatMap ·) (funext fun f => whole_map f _)

theorem bare_map_true (f : Bytes) : bare (f.map (·, true)) = [] := by
  rw [bare, List.filter_map]
  simp

theorem bare_map_false (f : Bytes) : bare (f.map (·, false)) = f := by
  have hall : (f.map (·, false)).filter (!·.2) = f.map (·, false) := by
    rw [List.filter_eq_self]
    intro b hb
    obtain ⟨_, _, rfl⟩ := List.mem_map.mp hb
    rfl
  rw [bare, hall]
  exact whole_map f false

theorem bare_marked (frames : List Bytes) :
    bare (marked frames) = (frames.filter (· ≠ keepAlive)).flatten := by
  induction frames with
  | nil => rfl
  | cons f frames ih =>
    have hcons : marked (f :: frames) = f.map (·, f == keepAlive) ++ marked frames := rfl
    rw [hcons, bare_append, ih]
    by_cases hkeep : f = keepAlive
    · rw [List.filter_cons_of_neg (by simp [hkeep]), beq_iff_eq.mpr hkeep, bare_map_true,
        List.nil_append]
    · rw [List.filter_cons_of_pos (by simp [hkeep]), beq_eq_false_iff_ne.mpr hkeep, bare_map_false,
        List.flatten_cons]

namespace Decoder

/-- Two scans that either refuse for the same reason, or give the same events but for those without
any field, and leave decoders with one limit, which both of them keep or neither. -/
inductive Alike : Scanned → Scanned → Prop
  | refused (fault : Fault) : Alike (.error fault) (.error fault)
  | read (d d' : Decoder) (events events' : List Event)
      (hevents : events.filter (· ≠ {}) = events'.filter (· ≠ {}))
      (hlimit : d.limit = d'.limit) (hsize : d.retained ≤ d.limit ↔ d'.retained ≤ d'.limit) :
      Alike (.ok (d, events)) (.ok (d', events'))

theorem Alike.refl (r : Scanned) : Alike r r := by
  cases r with
  | error fault => exact .refused fault
  | ok r => exact .read r.1 r.1 r.2 r.2 rfl rfl Iff.rfl

theorem Alike.prepend {r r' : Scanned} (h : Alike r r') {events events' : List Event}
    (hevents : events.filter (· ≠ {}) = events'.filter (· ≠ {})) :
    Alike (prepend events r) (prepend events' r') := by
  cases h with
  | refused fault => exact .refused fault
  | read d d' later later' hlater hlimit hsize =>
    refine .read d d' _ _ ?_ hlimit hsize
    rw [List.filter_append, List.filter_append, hevents, hlater]

/-- What comes after the same events is alike if all is. -/
theorem Alike.of_prepend {r r' : Scanned} {events events' : List Event}
    (h : Alike (Decoder.prepend events r) (Decoder.prepend events' r'))
    (hevents : events.filter (· ≠ {}) = events'.filter (· ≠ {})) : Alike r r' := by
  cases r with
  | error fault =>
    cases r' with
    | error fault' =>
      cases h
      exact .refused fault
    | ok r' => cases h
  | ok r =>
    cases r' with
    | error fault' => cases h
    | ok r' =>
      obtain ⟨d, later⟩ := r
      obtain ⟨d', later'⟩ := r'
      rw [prepend_ok, prepend_ok] at h
      cases h with
      | read _ _ _ _ hall hlimit hsize =>
        rw [List.filter_append, List.filter_append, hevents] at hall
        exact .read d d' later later' (List.append_cancel_left hall) hlimit hsize

variable (limit : Nat) (base64 : Bool)

/-- A frame is read whole and leaves the decoder as good as new, or it is refused, also where it is
written for base64 and read without or the other way round. -/
theorem scan_encode_cases (written : Bool) (e : Event) :
    (∃ events, ∀ rest, (new limit base64).scan (encode written e ++ rest) =
        prepend events ((new limit base64).scan rest)) ∨
      ∃ fault, ∀ rest, (new limit base64).scan (encode written e ++ rest) = .error fault := by
  have hlines : ∃ p, ∀ rest, (new limit base64).scan (encode written e ++ rest) =
      (reading limit base64 p).scan (lineFeed :: rest) := by
    refine ⟨?_, fun rest => ?_⟩
    rotate_left
    change (reading limit base64 {}).scan _ = _
    rw [encode_eq]
    simp only [List.append_assoc]
    rw [scan_fieldLines limit base64 _ _ _ _ isFieldName_nil (isLine_of_mem_lines e.comment),
      scan_idSection, scan_nameSection, scan_retrySection,
      scan_fieldLines limit base64 _ _ _ _ isFieldName_dataField
        (isLine_of_mem_dataLines written e)]
    rfl
  obtain ⟨p, hp⟩ := hlines
  have hstep : (reading limit base64 p).step lineFeed = (new limit base64, p.close base64) := rfl
  rcases hclose : p.close base64 with _ | fault | e
  · rw [hclose] at hstep
    exact Or.inl ⟨[], fun rest => (hp rest).trans (scan_cons _ _ _ _ none hstep)⟩
  · rw [hclose] at hstep
    exact Or.inr ⟨fault, fun rest => (hp rest).trans (scan_cons_fault _ _ _ _ _ hstep)⟩
  · rw [hclose] at hstep
    exact Or.inl ⟨[e], fun rest => (hp rest).trans (scan_cons _ _ _ _ (some e) hstep)⟩

/-- The beginning of a keep-alive is read like nothing. -/
theorem alike_keepAlive (hlimit : 0 < limit) (s : Bytes) (hs : s <+: keepAlive) :
    Alike ((new limit base64).scan s) ((new limit base64).scan []) := by
  have hcases : s = [] ∨ s = [colon] ∨ s = [colon, lineFeed] ∨ s = [colon, lineFeed, lineFeed] := by
    simp only [keepAlive, List.prefix_cons_iff, List.prefix_nil] at hs
    rcases hs with rfl | ⟨_, rfl, rfl | ⟨_, rfl, rfl | ⟨_, rfl, rfl⟩⟩⟩ <;> simp
  have hbase : (new limit base64).scan [] = .ok (new limit base64, []) := rfl
  rcases hcases with rfl | rfl | rfl | rfl
  · exact .refl _
  · have hscan : (new limit base64).scan [colon] =
        .ok ({ new limit base64 with buffer := [colon] }, []) := rfl
    rw [hscan, hbase]
    exact .read _ _ _ _ rfl rfl ⟨fun _ => Nat.zero_le limit, fun _ => hlimit⟩
  · have hscan : (new limit base64).scan [colon, lineFeed] =
        .ok (reading limit base64 { touched := true }, []) := rfl
    rw [hscan, hbase]
    exact .read _ _ _ _ rfl rfl Iff.rfl
  · have hscan := scan_keepAlive limit base64 []
    rw [hbase, prepend_ok] at hscan
    rw [hbase]
    exact hscan ▸ .read _ _ _ _ rfl rfl Iff.rfl

/-- Whatever beginning of a row of frames has been received. -/
theorem alike_marked (hlimit : 0 < limit) (frames : List Bytes)
    (hframes : ∀ f ∈ frames, f = keepAlive ∨ ∃ written e, f = encode written e)
    (received : List (UInt8 × Bool)) (h : received <+: marked frames) :
    Alike ((new limit base64).scan (whole received)) ((new limit base64).scan (bare received)) := by
  induction frames generalizing received with
  | nil =>
    rw [List.prefix_nil.mp h]
    exact .refl _
  | cons f frames ih =>
    have hrest := ih fun g hg => hframes g (List.mem_cons_of_mem f hg)
    have hf := hframes f List.mem_cons_self
    have hcut : (∃ s, s <+: f ∧ received = s.map (·, f == keepAlive)) ∨
        ∃ later, received = f.map (·, f == keepAlive) ++ later ∧ later <+: marked frames := by
      rcases List.prefix_or_prefix_of_prefix h (List.prefix_append _ _) with hwithin | ⟨later, rfl⟩
      · exact Or.inl (List.prefix_map_iff.mp hwithin)
      · exact Or.inr ⟨later, rfl, (List.prefix_append_right_inj _).mp h⟩
    by_cases hkeep : f = keepAlive
    · subst hkeep
      rw [beq_self_eq_true] at hcut
      rcases hcut with ⟨s, hs, rfl⟩ | ⟨later, rfl, hlater⟩
      · rw [whole_map, bare_map_true]
        exact alike_keepAlive limit base64 hlimit s hs
      · rw [whole_append, whole_map, scan_keepAlive, bare_append, bare_map_true, List.nil_append,
          ← prepend_nil ((new limit base64).scan (bare later))]
        exact (hrest later hlater).prepend rfl
    · rw [beq_eq_false_iff_ne.mpr hkeep] at hcut
      rcases hcut with ⟨s, _, rfl⟩ | ⟨later, rfl, hlater⟩
      · rw [whole_map, bare_map_false]
        exact .refl _
      · obtain ⟨written, e, rfl⟩ := hf.resolve_left hkeep
        rw [whole_append, whole_map, bare_append, bare_map_false]
        rcases scan_encode_cases limit base64 written e with ⟨events, hread⟩ | ⟨fault, hrefused⟩
        · rw [hread, hread]
          exact (hrest later hlater).prepend rfl
        · rw [hrefused, hrefused]
          exact .refused fault

/-- Two decoders at one place of a body, of which one was fed the keep-alives too. -/
structure Abreast (past : List (UInt8 × Bool)) (d d' : Decoder) : Prop where
  found : ∃ events events', (new limit base64).scan (whole past) = .ok (d, events) ∧
    (new limit base64).scan (bare past) = .ok (d', events') ∧
    events.filter (· ≠ {}) = events'.filter (· ≠ {})

variable {limit : Nat} {base64 : Bool}

/-- The next chunk is answered alike, and if it is not refused, the decoders are at one place
again. -/
theorem Abreast.decode {past chunk : List (UInt8 × Bool)} {d d' : Decoder}
    (h : Abreast limit base64 past d d') (hlimit : 0 < limit) (frames : List Bytes)
    (hframes : ∀ f ∈ frames, f = keepAlive ∨ ∃ written e, f = encode written e)
    (hreceived : past ++ chunk <+: marked frames) :
    (∃ fault, (d.decode (whole chunk)).2 = .error fault ∧
        (d'.decode (bare chunk)).2 = .error fault) ∨
      ∃ d₁ d₁' found found', d.decode (whole chunk) = (d₁, .ok found) ∧
        d'.decode (bare chunk) = (d₁', .ok found') ∧
        found.filter (· ≠ {}) = found'.filter (· ≠ {}) ∧
        Abreast limit base64 (past ++ chunk) d₁ d₁' := by
  obtain ⟨events, events', hd, hd', hevents⟩ := h.found
  have hcaught := (caughtUp_new limit base64).scan _ events hd
  have hcaught' := (caughtUp_new limit base64).scan _ events' hd'
  have hwhole := scan_append _ d _ (whole chunk) events hd
  have hbare := scan_append _ d' _ (bare chunk) events' hd'
  rw [← whole_append] at hwhole
  rw [← bare_append] at hbare
  have hall := alike_marked limit base64 hlimit frames hframes (past ++ chunk) hreceived
  rw [hwhole, hbare] at hall
  have halike := hall.of_prepend hevents
  generalize hscan : d.scan (whole chunk) = r at halike hwhole
  generalize hscan' : d'.scan (bare chunk) = r' at halike hbare
  cases halike with
  | refused fault =>
    exact Or.inl ⟨fault, decode_of_scan_fault hcaught _ fault hscan,
      decode_of_scan_fault hcaught' _ fault hscan'⟩
  | read d₁ d₁' found found' hfound hsame hsize =>
    have hdecode := decode_of_scan hcaught d₁ _ found hscan
    have hdecode' := decode_of_scan hcaught' d₁' _ found' hscan'
    by_cases hfits : d₁.retained ≤ d₁.limit
    · rw [if_pos hfits] at hdecode
      rw [if_pos (hsize.mp hfits)] at hdecode'
      refine Or.inr ⟨d₁, d₁', found, found', hdecode, hdecode', hfound, ?_⟩
      refine ⟨events ++ found, events' ++ found', hwhole, hbare, ?_⟩
      rw [List.filter_append, List.filter_append, hevents, hfound]
    · rw [if_neg hfits] at hdecode
      rw [if_neg fun h => hfits (hsize.mpr h), ← hsame] at hdecode'
      exact Or.inl ⟨_, congrArg (·.2) hdecode, congrArg (·.2) hdecode'⟩

end Decoder

end EventBroker.Frame
