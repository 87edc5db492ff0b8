import EventBroker.Proofs.Frame.Scan
import Mathlib.Data.List.TakeWhile

/-!
A call of a decoder is a scan of its chunk. The call takes whole lines off its buffer and
looks one byte ahead of a carriage return, where a scan remembers that a line feed may
follow: both come to the same once the buffer is used up. So a call succeeds exactly when
the scan does and what is left is within the limit.
-/
namespace EventBroker.Frame.Decoder

open Bytes

def emptied (d : Decoder) : Decoder := { d with buffer := [] }

theorem readLine_emptied (d : Decoder) (line : Bytes) :
    d.emptied.readLine line = ((d.readLine line).1.emptied, (d.readLine line).2) := by
  unfold readLine emptied
  split <;> rfl

theorem readLine_skip (d : Decoder) (line : Bytes) :
    d.skip.readLine line = ((d.readLine line).1.skip, (d.readLine line).2) := by
  obtain ⟨limit, base64, buffer, pending, skipLineFeed⟩ := d
  unfold readLine skip
  cases skipLineFeed <;> cases buffer <;> cases line <;> rfl

theorem skip_waits (d : Decoder) (h : d.skip.skipLineFeed = true) : d.skip.buffer = [] := by
  obtain ⟨limit, base64, buffer, pending, skipLineFeed⟩ := d
  cases skipLineFeed with
  | false => cases h
  | true =>
    cases buffer with
    | nil => rfl
    | cons b rest => cases h

/-- Where a line is taken off, no line feed is waited for. -/
theorem skip_of_takeLine? (d : Decoder) (taken : Bytes × Decoder)
    (h : d.skip.takeLine? = some taken) : d.skip.skipLineFeed = false := by
  rw [Bool.eq_false_iff]
  intro hwaits
  rw [takeLine?, skip_waits d hwaits] at h
  cases h

/-- To leave out a line feed ahead changes nothing for a scan. -/
theorem scan_skip (d : Decoder) :
    d.skip.emptied.scan d.skip.buffer = d.emptied.scan d.buffer := by
  obtain ⟨limit, base64, buffer, pending, skipLineFeed⟩ := d
  cases skipLineFeed with
  | false => rfl
  | true =>
    cases buffer with
    | nil => rfl
    | cons b rest =>
      by_cases hb : b = lineFeed
      · subst hb
        rfl
      · simp only [skip, hb, if_false, emptied, scan]
        rw [step_of_ne_lineFeed { limit, base64, pending, skipLineFeed := true } b hb]

theorem CaughtUp.scan_emptied {d : Decoder} (hd : d.CaughtUp) :
    d.emptied.scan d.buffer = .ok (d, []) := by
  obtain ⟨limit, base64, buffer, pending, skipLineFeed⟩ := d
  cases skipLineFeed with
  | false =>
    have hscan := scan_isLine (emptied { limit, base64, buffer, pending }) buffer [] hd.line rfl
    rwa [List.append_nil] at hscan
  | true =>
    obtain rfl : buffer = [] := hd.waits rfl
    rfl

theorem takeLine?_eq_none (d : Decoder) (h : d.takeLine? = none) : IsLine d.buffer := by
  unfold takeLine? at h
  split at h
  · next hdrop =>
    intro b hb
    have hkept := List.dropWhile_eq_nil_iff.mp hdrop b hb
    simpa using hkept
  · cases h

/-- A line that is taken off stood before its terminator; what was left, less a line feed that
the terminator leaves to be skipped, is the buffer now. -/
theorem takeLine?_eq_some (d rest : Decoder) (line : Bytes) (hskip : d.skipLineFeed = false)
    (h : d.takeLine? = some (line, rest)) :
    ∃ b after, d.buffer = line ++ b :: after ∧ IsLine line ∧ isTerminator b = true ∧
      rest = { d with buffer := after, skipLineFeed := b == carriageReturn }.skip := by
  obtain ⟨limit, base64, buffer, pending, skipLineFeed⟩ := d
  obtain rfl : skipLineFeed = false := hskip
  unfold takeLine? at h
  split at h
  · cases h
  · next b after hdrop =>
    have hsplit : buffer.takeWhile (!isTerminator ·) ++ b :: after = buffer := by
      rw [← hdrop]
      exact List.takeWhile_append_dropWhile
    have hhead := List.head?_dropWhile_not (!isTerminator ·) buffer
    cases h
    refine ⟨b, after, hsplit.symm, ?_, ?_, ?_⟩
    · intro c hc
      have hkept := List.mem_takeWhile_imp hc
      simpa using hkept
    · simpa [hdrop] using hhead
    · cases hreturn : b == carriageReturn with
      | false => rfl
      | true =>
        cases after with
        | nil => rfl
        | cons c after => rfl

/-- A step at a terminator reads the line before it, whatever comes after. -/
theorem step_isTerminator (d : Decoder) (b : UInt8) (after : Bytes) (hb : isTerminator b = true)
    (hskip : d.skipLineFeed = false) (r : Decoder × Option (Except Fault Event))
    (hr : { d with buffer := after, skipLineFeed := b == carriageReturn }.readLine d.buffer = r) :
    d.step b = (r.1.emptied, r.2) := by
  rw [← hr, ← readLine_emptied, step, hskip, Bool.false_and, if_neg Bool.false_ne_true, if_pos hb]
  rfl

/-- The scan of a buffer reads the line that is taken off it, and goes on with the rest. -/
theorem scan_takeLine (d rest : Decoder) (line : Bytes) (hskip : d.skipLineFeed = false)
    (h : d.takeLine? = some (line, rest)) :
    ∃ (d₁ d₂ : Decoder) (b : UInt8) (after : Bytes),
      d.emptied.scan d.buffer = d₁.scan (b :: after) ∧
      d₁.step b = (d₂, (rest.readLine line).2) ∧
      d₂.scan after = (rest.readLine line).1.emptied.scan (rest.readLine line).1.buffer := by
  obtain ⟨b, after, hbuffer, hline, hb, rfl⟩ := takeLine?_eq_some d rest line hskip h
  obtain ⟨r, hr⟩ : ∃ r, { d with buffer := after, skipLineFeed := b == carriageReturn }.readLine
    line = r := ⟨_, rfl⟩
  have hafter : r.1.buffer = after := by
    rw [← hr, readLine_buffer]
  refine ⟨{ d with buffer := line }, r.1.emptied, b, after, ?_, ?_, ?_⟩
  · rw [hbuffer, scan_isLine d.emptied line (b :: after) hline hskip]
    rfl
  · rw [readLine_skip, hr]
    exact step_isTerminator { d with buffer := line } b after hb hskip r hr
  · rw [readLine_skip, hr, scan_skip, hafter]

theorem drain_of_takeLine? (d rest : Decoder) (line : Bytes) (done : List Event)
    (h : d.skip.takeLine? = some (line, rest)) (found : Option Event)
    (hfound : (rest.readLine line).2 = found.map .ok) :
    d.drain done = (rest.readLine line).1.drain (found.toList ++ done) := by
  rw [drain]
  split
  · next hnone => cases hnone.symm.trans h
  · next hsome =>
    cases hsome.symm.trans h
    cases found <;> simp only [hfound, Option.map_none, Option.map_some] <;> rfl

theorem drain_of_takeLine?_fault (d rest : Decoder) (line : Bytes) (done : List Event)
    (h : d.skip.takeLine? = some (line, rest)) (fault : Fault)
    (hfault : (rest.readLine line).2 = some (.error fault)) :
    d.drain done = ((rest.readLine line).1, .error fault) := by
  rw [drain]
  split
  · next hnone => cases hnone.symm.trans h
  · next hsome =>
    cases hsome.symm.trans h
    simp only [hfault]

theorem drain_of_takeLine?_none (d : Decoder) (done : List Event)
    (h : d.skip.takeLine? = none) : d.drain done = (d.skip, .ok done) := by
  rw [drain]
  split
  · rfl
  · next hsome => cases hsome.symm.trans h

def Drains (d : Decoder) (done : List Event) : Prop :=
  (∃ d' events, d.emptied.scan d.buffer = .ok (d', events) ∧
    d.drain done = (d', .ok (events.reverse ++ done))) ∨
  ∃ d' fault, d.emptied.scan d.buffer = .error fault ∧ d.drain done = (d', .error fault)

theorem drains_of_takeLine? (d rest : Decoder) (line : Bytes) (done : List Event)
    (h : d.skip.takeLine? = some (line, rest)) (found : Option Event)
    (hfound : (rest.readLine line).2 = found.map .ok)
    (hrest : (rest.readLine line).1.Drains (found.toList ++ done)) : d.Drains done := by
  obtain ⟨d₁, d₂, b, after, hfront, hstep, hafter⟩ :=
    scan_takeLine d.skip rest line (skip_of_takeLine? d _ h) h
  rw [hfound] at hstep
  have hscan : d.emptied.scan d.buffer = prepend found.toList
      ((rest.readLine line).1.emptied.scan (rest.readLine line).1.buffer) := by
    rw [← scan_skip, hfront, scan_cons d₁ d₂ b after found hstep, hafter]
  have hdrain := drain_of_takeLine? d rest line done h found hfound
  rcases hrest with ⟨d', events, hok, hlater⟩ | ⟨d', fault, herror, hlater⟩
  · refine Or.inl ⟨d', found.toList ++ events, ?_, ?_⟩
    · rw [hscan, hok, prepend_ok]
    · rw [hdrain, hlater]
      cases found <;> simp
  · refine Or.inr ⟨d', fault, ?_, ?_⟩
    · rw [hscan, herror, prepend_error]
    · rw [hdrain, hlater]

theorem drains (d : Decoder) (done : List Event) : d.Drains done := by
  induction d, done using drain.induct with
  | case1 d done hline =>
    refine Or.inl ⟨d.skip, [], ?_, drain_of_takeLine?_none d done hline⟩
    have hcaught : d.skip.CaughtUp := ⟨takeLine?_eq_none _ hline, skip_waits d⟩
    rw [← scan_skip, hcaught.scan_emptied]
  | case2 d done line rest hline _ hnone ih =>
    exact drains_of_takeLine? d rest line done hline none hnone ih
  | case3 d done line rest hline _ e hsome ih =>
    exact drains_of_takeLine? d rest line done hline (some e) hsome ih
  | case4 d done line rest hline _ fault hfault =>
    obtain ⟨d₁, d₂, b, after, hfront, hstep, _⟩ :=
      scan_takeLine d.skip rest line (skip_of_takeLine? d _ hline) hline
    have hrefused : (rest.readLine line).2 = some (.error fault) := hfault
    rw [hrefused] at hstep
    refine Or.inr ⟨(rest.readLine line).1, fault, ?_, ?_⟩
    · rw [← scan_skip, hfront, scan_cons_fault d₁ d₂ b after fault hstep]
    · exact drain_of_takeLine?_fault d rest line done hline fault hrefused

theorem scan_emptied_append {d : Decoder} (hd : d.CaughtUp) (chunk : Bytes) :
    { d with buffer := d.buffer ++ chunk }.emptied.scan (d.buffer ++ chunk) = d.scan chunk := by
  have happend := scan_append _ d d.buffer chunk [] hd.scan_emptied
  rwa [prepend_nil] at happend

/-- A call whose chunk can be scanned fails only if too much is left. -/
theorem decode_of_scan {d : Decoder} (hd : d.CaughtUp) (d' : Decoder) (chunk : Bytes)
    (events : List Event) (h : d.scan chunk = .ok (d', events)) :
    d.decode chunk =
      (d', if d'.retained ≤ d'.limit then .ok events else .error (.oversized d'.limit)) := by
  have hdrains := drains { d with buffer := d.buffer ++ chunk } []
  unfold Drains at hdrains
  rw [scan_emptied_append hd chunk, h] at hdrains
  rcases hdrains with ⟨d₁, found, hok, hdrain⟩ | ⟨_, _, herror, _⟩
  · obtain ⟨rfl, rfl⟩ := Prod.mk.inj (Except.ok.inj hok)
    unfold decode
    rw [hdrain]
    by_cases hsize : d'.retained ≤ d'.limit
    · simp only [if_neg (Nat.not_lt.mpr hsize), if_pos hsize, List.append_nil,
        List.reverse_reverse]
    · simp only [if_pos (Nat.lt_of_not_le hsize), if_neg hsize]
  · cases herror

theorem decode_of_scan_fault {d : Decoder} (hd : d.CaughtUp) (chunk : Bytes) (fault : Fault)
    (h : d.scan chunk = .error fault) : (d.decode chunk).2 = .error fault := by
  have hdrains := drains { d with buffer := d.buffer ++ chunk } []
  unfold Drains at hdrains
  rw [scan_emptied_append hd chunk, h] at hdrains
  rcases hdrains with ⟨_, _, hok, _⟩ | ⟨d₁, cause, herror, hdrain⟩
  · cases hok
  · cases herror
    unfold decode
    rw [hdrain]

/-- A call that refuses a frame for its data has come to it in its scan. -/
theorem scan_of_base64 {d : Decoder} (hd : d.CaughtUp) (chunk : Bytes) (cause : Base64.Fault)
    (h : (d.decode chunk).2 = .error (.base64 cause)) :
    d.scan chunk = .error (.base64 cause) := by
  rcases hscan : d.scan chunk with fault | ⟨d', events⟩
  · rw [decode_of_scan_fault hd chunk fault hscan] at h
    cases h
    rfl
  · rw [decode_of_scan hd d' chunk events hscan] at h
    split at h
    · cases h
    · cases h

/-- A call succeeds exactly when its chunk can be scanned and what is left is small enough. -/
theorem decode_eq_ok_iff {d : Decoder} (hd : d.CaughtUp) (d' : Decoder) (chunk : Bytes)
    (events : List Event) :
    d.decode chunk = (d', .ok events) ↔
      d.scan chunk = .ok (d', events) ∧ d'.retained ≤ d'.limit := by
  rcases hscan : d.scan chunk with fault | ⟨d₁, found⟩
  · have hfault := decode_of_scan_fault hd chunk fault hscan
    constructor
    · intro hdecode
      rw [hdecode] at hfault
      cases hfault
    · rintro ⟨hok, _⟩
      cases hok
  · rw [decode_of_scan hd d₁ chunk found hscan]
    by_cases hsize : d₁.retained ≤ d₁.limit
    · rw [if_pos hsize]
      constructor
      · intro h
        cases h
        exact ⟨rfl, hsize⟩
      · rintro ⟨h, _⟩
        cases h
        rfl
    · rw [if_neg hsize]
      constructor
      · intro h
        cases h
      · rintro ⟨h, hfits⟩
        cases h
        exact absurd hfits hsize

end EventBroker.Frame.Decoder
