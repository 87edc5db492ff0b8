import EventBroker.Proofs.Frame.LineBreaks

/-!
Reading byte by byte. A scan takes one step for each byte and never looks at the next one:
after a carriage return it only remembers that a line feed would belong to it. It splits
over a concatenation, and it leaves nothing to read but an unfinished line.
-/
namespace EventBroker.Frame.Decoder

open Bytes

abbrev Scanned := Except Fault (Decoder × List Event)

def prepend (events : List Event) (r : Scanned) : Scanned :=
  r.map fun (d, later) => (d, events ++ later)

/-- Reads one byte. The buffer holds the line so far. -/
def step (d : Decoder) (b : UInt8) : Decoder × Option (Except Fault Event) :=
  if d.skipLineFeed && b == lineFeed then ({ d with skipLineFeed := false }, none)
  else if isTerminator b then
    { d with buffer := [], skipLineFeed := b == carriageReturn }.readLine d.buffer
  else ({ d with buffer := d.buffer ++ [b], skipLineFeed := false }, none)

def scan (d : Decoder) : Bytes → Scanned
  | [] => .ok (d, [])
  | b :: rest =>
    match d.step b with
    | (d', none) => scan d' rest
    | (d', some (.ok e)) => prepend [e] (scan d' rest)
    | (_, some (.error fault)) => .error fault

theorem prepend_nil (r : Scanned) : prepend [] r = r := by cases r <;> rfl

theorem prepend_ok (events later : List Event) (d : Decoder) :
    prepend events (.ok (d, later)) = .ok (d, events ++ later) := rfl

theorem prepend_error (events : List Event) (fault : Fault) :
    prepend events (.error fault) = .error fault := rfl

theorem prepend_prepend (first second : List Event) (r : Scanned) :
    prepend first (prepend second r) = prepend (first ++ second) r := by
  cases r with
  | ok r =>
    obtain ⟨d, later⟩ := r
    simp only [prepend_ok, List.append_assoc]
  | error fault => rfl

theorem prepend_eq_ok (events all : List Event) (d : Decoder) (r : Scanned)
    (h : prepend events r = .ok (d, all)) :
    ∃ later, r = .ok (d, later) ∧ all = events ++ later := by
  cases r with
  | ok r =>
    cases h
    exact ⟨r.2, rfl, rfl⟩
  | error fault => cases h

/-- A step completes at most one event, or it refuses a frame. -/
theorem step_cases (d : Decoder) (b : UInt8) :
    (∃ d' found, d.step b = (d', Option.map Except.ok found)) ∨
      ∃ d' fault, d.step b = (d', some (.error fault)) := by
  rcases h : d.step b with ⟨d', _ | fault | e⟩
  · exact Or.inl ⟨d', none, rfl⟩
  · exact Or.inr ⟨d', fault, rfl⟩
  · exact Or.inl ⟨d', some e, rfl⟩

theorem scan_nil (d : Decoder) : d.scan [] = .ok (d, []) := rfl

theorem scan_cons (d d' : Decoder) (b : UInt8) (s : Bytes) (found : Option Event)
    (h : d.step b = (d', found.map .ok)) : d.scan (b :: s) = prepend found.toList (d'.scan s) := by
  cases found with
  | none => simp only [scan, h, Option.map_none, Option.toList_none, prepend_nil]
  | some e => simp only [scan, h, Option.map_some, Option.toList_some]

theorem scan_cons_fault (d d' : Decoder) (b : UInt8) (s : Bytes) (fault : Fault)
    (h : d.step b = (d', some (.error fault))) : d.scan (b :: s) = .error fault := by
  simp only [scan, h]

/-- A scan of two texts in a row goes on with the second one from where the first ends. -/
theorem scan_append (d d' : Decoder) (s t : Bytes) (events : List Event)
    (h : d.scan s = .ok (d', events)) : d.scan (s ++ t) = prepend events (d'.scan t) := by
  induction s generalizing d events with
  | nil =>
    cases h
    rw [List.nil_append, prepend_nil]
  | cons b s ih =>
    rw [List.cons_append]
    rcases step_cases d b with ⟨d₁, found, hstep⟩ | ⟨d₁, fault, hstep⟩
    · rw [scan_cons d d₁ b _ found hstep] at h ⊢
      obtain ⟨later, hs, rfl⟩ := prepend_eq_ok _ _ _ _ h
      rw [ih d₁ later hs, prepend_prepend]
    · rw [scan_cons_fault d d₁ b _ fault hstep] at h
      cases h

theorem scan_append_fault (d : Decoder) (s t : Bytes) (fault : Fault)
    (h : d.scan s = .error fault) : d.scan (s ++ t) = .error fault := by
  induction s generalizing d with
  | nil => cases h
  | cons b s ih =>
    rw [List.cons_append]
    rcases step_cases d b with ⟨d₁, found, hstep⟩ | ⟨d₁, cause, hstep⟩
    · rw [scan_cons d d₁ b _ found hstep] at h ⊢
      rcases hs : d₁.scan s with cause | r
      · rw [hs] at h
        cases h
        rw [ih d₁ hs, prepend_error]
      · rw [hs] at h
        cases h
    · rw [scan_cons_fault d d₁ b _ cause hstep] at h ⊢
      exact h

/-- What stands before a place can be scanned if all can, and its events come first. -/
theorem scan_of_append (d d' : Decoder) (s t : Bytes) (events : List Event)
    (h : d.scan (s ++ t) = .ok (d', events)) :
    ∃ d₁ before after, d.scan s = .ok (d₁, before) ∧ d₁.scan t = .ok (d', after) ∧
      events = before ++ after := by
  rcases hs : d.scan s with fault | ⟨d₁, before⟩
  · rw [scan_append_fault d s t fault hs] at h
    cases h
  · rw [scan_append d d₁ s t before hs] at h
    obtain ⟨after, ht, rfl⟩ := prepend_eq_ok _ _ _ _ h
    exact ⟨d₁, before, after, rfl, ht, rfl⟩

/-- A byte other than a line feed is read alike after a carriage return and elsewhere. -/
theorem step_of_ne_lineFeed (d : Decoder) (b : UInt8) (hb : b ≠ lineFeed) :
    d.step b = { d with skipLineFeed := false }.step b := by
  have hne : (b == lineFeed) = false := beq_eq_false_iff_ne.mpr hb
  simp only [step, hne, Bool.and_false, Bool.false_eq_true, if_false]

theorem scan_isLine (d : Decoder) (l rest : Bytes) (hl : IsLine l)
    (hskip : d.skipLineFeed = false) :
    d.scan (l ++ rest) = { d with buffer := d.buffer ++ l }.scan rest := by
  induction l generalizing d with
  | nil => simp
  | cons b l ih =>
    have hb : isTerminator b = false := hl b List.mem_cons_self
    have hstep : d.step b = ({ d with buffer := d.buffer ++ [b] }, none) := by
      obtain ⟨limit, base64, buffer, pending, skipLineFeed⟩ := d
      obtain rfl : skipLineFeed = false := hskip
      simp [step, hb]
    rw [List.cons_append, scan_cons _ _ b _ none hstep, Option.toList_none, prepend_nil,
      ih { d with buffer := d.buffer ++ [b] } (fun c hc => hl c (List.mem_cons_of_mem b hc)) hskip]
    simp

structure CaughtUp (d : Decoder) : Prop where
  line : IsLine d.buffer
  waits : d.skipLineFeed = true → d.buffer = []

theorem caughtUp_new (limit : Nat) (base64 : Bool) : (new limit base64).CaughtUp :=
  ⟨isLine_nil, nofun⟩

theorem CaughtUp.step {d : Decoder} (hd : d.CaughtUp) (b : UInt8) : (d.step b).1.CaughtUp := by
  unfold Decoder.step
  split
  · next hskip =>
    rw [Bool.and_eq_true] at hskip
    exact ⟨hd.line, fun _ => hd.waits hskip.1⟩
  · split
    · have hbuffer := readLine_buffer
        { d with buffer := [], skipLineFeed := b == carriageReturn } d.buffer
      exact ⟨by rw [hbuffer]; exact isLine_nil, fun _ => hbuffer⟩
    · next hb =>
      refine ⟨isLine_append _ _ hd.line ?_, nofun⟩
      intro c hc
      rw [List.mem_singleton.mp hc]
      exact Bool.eq_false_iff.mpr hb

theorem CaughtUp.scan {d d' : Decoder} (hd : d.CaughtUp) (s : Bytes) (events : List Event)
    (h : d.scan s = .ok (d', events)) : d'.CaughtUp := by
  induction s generalizing d events with
  | nil =>
    cases h
    exact hd
  | cons b s ih =>
    rcases step_cases d b with ⟨d₁, found, hstep⟩ | ⟨d₁, fault, hstep⟩
    · rw [scan_cons d d₁ b _ found hstep] at h
      obtain ⟨later, hs, rfl⟩ := prepend_eq_ok _ _ _ _ h
      have hnext := hd.step b
      rw [hstep] at hnext
      exact ih hnext later hs
    · rw [scan_cons_fault d d₁ b _ fault hstep] at h
      cases h

end EventBroker.Frame.Decoder
