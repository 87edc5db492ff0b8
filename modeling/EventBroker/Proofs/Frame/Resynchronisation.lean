import EventBroker.Proofs.Frame.Calls
import EventBroker.Proofs.Frame.Chunking
import EventBroker.Proofs.Frame.Payload

/-!
What a decoder goes on with after a frame with invalid data. The call that refuses the frame
stops behind the blank line that closes it: the frame under way is gone, and what the chunk
has behind that line is still to be read. Where the line ends on a carriage return at the end
of the chunk, a line feed that comes first in the next one belongs to it. A fresh decoder reads
such a line feed as one more blank line, which closes nothing, so both answer alike for ever.
-/
namespace EventBroker.Frame

open Bytes

namespace Decoder

/-- Where a scan refuses a frame: the decoder then, and the bytes that it has not read. -/
def refusal? (d : Decoder) : Bytes → Option (Decoder × Bytes)
  | [] => none
  | b :: rest =>
    match d.step b with
    | (d', none) => refusal? d' rest
    | (d', some (.ok _)) => refusal? d' rest
    | (d', some (.error _)) => some (d', rest)

theorem refusal?_cons (d d' : Decoder) (b : UInt8) (s : Bytes) (found : Option Event)
    (h : d.step b = (d', found.map .ok)) : d.refusal? (b :: s) = d'.refusal? s := by
  cases found with
  | none => simp only [refusal?, h, Option.map_none]
  | some e => simp only [refusal?, h, Option.map_some]

theorem refusal?_cons_fault (d d' : Decoder) (b : UInt8) (s : Bytes) (fault : Fault)
    (h : d.step b = (d', some (.error fault))) : d.refusal? (b :: s) = some (d', s) := by
  simp only [refusal?, h]

/-- What can be scanned is not refused. -/
theorem refusal?_append (d d' : Decoder) (s t : Bytes) (events : List Event)
    (h : d.scan s = .ok (d', events)) : d.refusal? (s ++ t) = d'.refusal? t := by
  induction s generalizing d events with
  | nil =>
    cases h
    rfl
  | cons b s ih =>
    rw [List.cons_append]
    rcases step_cases d b with ⟨d₁, found, hstep⟩ | ⟨d₁, fault, hstep⟩
    · rw [scan_cons d d₁ b _ found hstep] at h
      obtain ⟨later, hs, rfl⟩ := prepend_eq_ok _ _ _ _ h
      rw [refusal?_cons d d₁ b _ found hstep, ih d₁ later hs]
    · rw [scan_cons_fault d d₁ b _ fault hstep] at h
      cases h

/-- A scan that fails has come to a byte that closes the frame it refuses. -/
theorem exists_step_of_scan_fault (d : Decoder) (s : Bytes) (fault : Fault)
    (h : d.scan s = .error fault) :
    ∃ front b after d₁ events d₂, s = front ++ b :: after ∧ d.scan front = .ok (d₁, events) ∧
      d₁.step b = (d₂, some (.error fault)) := by
  induction s generalizing d with
  | nil => cases h
  | cons b s ih =>
    rcases step_cases d b with ⟨d₁, found, hstep⟩ | ⟨d₁, cause, hstep⟩
    · rw [scan_cons d d₁ b _ found hstep] at h
      have hs : d₁.scan s = .error fault := by
        cases hscan : d₁.scan s with
        | error cause =>
          rw [hscan] at h
          exact h
        | ok r =>
          rw [hscan] at h
          cases h
      obtain ⟨front, c, after, d₂, events, d₃, rfl, hfront, hrefused⟩ := ih d₁ hs
      refine ⟨b :: front, c, after, d₂, found.toList ++ events, d₃, rfl, ?_, hrefused⟩
      rw [scan_cons d d₁ b _ found hstep, hfront, prepend_ok]
    · rw [scan_cons_fault d d₁ b _ cause hstep] at h
      cases h
      exact ⟨[], b, s, d, [], d₁, rfl, rfl, hstep⟩

theorem refusal?_skip (d : Decoder) :
    d.skip.emptied.refusal? d.skip.buffer = d.emptied.refusal? d.buffer := by
  obtain ⟨limit, base64, buffer, pending, skipLineFeed⟩ := d
  cases skipLineFeed with
  | false => rfl
  | true =>
    cases buffer with
    | nil => rfl
    | cons b rest =>
      by_cases hb : b = lineFeed
      · subst hb
        rfl
      · simp only [skip, hb, if_false, emptied, refusal?]
        rw [step_of_ne_lineFeed { limit, base64, pending, skipLineFeed := true } b hb]

/-- Taking a line off the buffer comes to the step at the terminator of the line. -/
theorem refusal?_takeLine (d rest : Decoder) (line : Bytes)
    (h : d.skip.takeLine? = some (line, rest)) :
    ∃ (d₁ d₂ : Decoder) (b : UInt8), d.emptied.refusal? d.buffer = d₁.refusal? (b :: d₂.buffer) ∧
      d₁.step b = (d₂.emptied, (rest.readLine line).2) ∧ (rest.readLine line).1 = d₂.skip := by
  have hskip := skip_of_takeLine? d _ h
  obtain ⟨b, after, hbuffer, hline, hb, rfl⟩ := takeLine?_eq_some d.skip rest line hskip h
  obtain ⟨r, hr⟩ : ∃ r, Decoder.readLine
    { d.skip with buffer := after, skipLineFeed := b == carriageReturn } line = r := ⟨_, rfl⟩
  have hafter : r.1.buffer = after := by
    rw [← hr, readLine_buffer]
  have hfront := scan_isLine d.skip.emptied line [] hline hskip
  rw [List.append_nil] at hfront
  refine ⟨{ d.skip with buffer := line }, r.1, b, ?_, ?_, ?_⟩
  · rw [← refusal?_skip, hbuffer, refusal?_append _ _ line _ [] hfront, hafter]
    rfl
  · rw [readLine_skip, hr]
    exact step_isTerminator { d.skip with buffer := line } b after hb hskip r hr
  · rw [readLine_skip, hr]

theorem refusal?_readLine (d rest : Decoder) (line : Bytes) (found : Option Event)
    (h : d.skip.takeLine? = some (line, rest)) (hfound : (rest.readLine line).2 = found.map .ok) :
    d.emptied.refusal? d.buffer =
      (rest.readLine line).1.emptied.refusal? (rest.readLine line).1.buffer := by
  obtain ⟨d₁, d₂, b, hbuffer, hstep, hleft⟩ := refusal?_takeLine d rest line h
  rw [hfound] at hstep
  rw [hbuffer, refusal?_cons d₁ _ b _ found hstep, hleft, refusal?_skip]

/-- Reading lines up to a refusal leaves what the scan has not read. -/
theorem drain_refusal (d : Decoder) (done : List Event) (fault : Fault)
    (h : (d.drain done).2 = .error fault) :
    ∃ d₁ rest, d.emptied.refusal? d.buffer = some (d₁, rest) ∧
      (d.drain done).1 = { d₁ with buffer := rest }.skip := by
  induction d, done using drain.induct with
  | case1 d done hline =>
    rw [drain_of_takeLine?_none d done hline] at h
    cases h
  | case2 d done line rest hline _ hnone ih =>
    rw [drain_of_takeLine? d rest line done hline none hnone] at h ⊢
    rw [refusal?_readLine d rest line none hline hnone]
    exact ih h
  | case3 d done line rest hline _ e hsome ih =>
    rw [drain_of_takeLine? d rest line done hline (some e) hsome] at h ⊢
    rw [refusal?_readLine d rest line (some e) hline hsome]
    exact ih h
  | case4 d done line rest hline _ cause hfault =>
    have hrefused : (rest.readLine line).2 = some (.error cause) := hfault
    obtain ⟨d₁, d₂, b, hbuffer, hstep, hleft⟩ := refusal?_takeLine d rest line hline
    rw [hrefused] at hstep
    refine ⟨d₂.emptied, d₂.buffer, ?_, ?_⟩
    · rw [hbuffer, refusal?_cons_fault d₁ _ b _ cause hstep]
    · rw [drain_of_takeLine?_fault d rest line done hline cause hrefused]
      exact hleft

/-- A step that refuses a frame reads the terminator of a blank line, and leaves nothing of the
frame. -/
theorem step_refuses (d d' : Decoder) (b : UInt8) (fault : Fault)
    (h : d.step b = (d', some (.error fault))) :
    isTerminator b = true ∧ ¬(d.skipLineFeed = true ∧ b = lineFeed) ∧ d.buffer = [] ∧
      d.pending.close d.base64 = some (.error fault) ∧
      d' = { new d.limit d.base64 with skipLineFeed := b == carriageReturn } := by
  unfold step at h
  split at h
  · cases h
  · next hpair =>
    split at h
    · next hbreak =>
      unfold readLine at h
      split at h
      · next hblank =>
        obtain ⟨hleft, hclose⟩ := Prod.mk.inj h
        refine ⟨hbreak, by simpa using hpair, List.isEmpty_iff.mp hblank, hclose, ?_⟩
        rw [← hleft]
        rfl
      · cases h
    · cases h

/-- A call that comes to a frame with invalid data leaves a fresh decoder with the rest of the
chunk in its buffer. -/
theorem decode_of_step {d : Decoder} (hd : d.CaughtUp) (front after : Bytes) (b : UInt8)
    (d₁ d₂ : Decoder) (events : List Event) (fault : Fault)
    (hfront : d.scan front = .ok (d₁, events)) (hstep : d₁.step b = (d₂, some (.error fault))) :
    d.decode (front ++ b :: after) = ({ d₂ with buffer := after }.skip, .error fault) := by
  have hscan : d.scan (front ++ b :: after) = .error fault := by
    rw [scan_append d d₁ front _ events hfront, scan_cons_fault d₁ d₂ b after fault hstep,
      prepend_error]
  have hrefusal : d.refusal? (front ++ b :: after) = some (d₂, after) := by
    rw [refusal?_append d d₁ front _ events hfront, refusal?_cons_fault d₁ d₂ b after fault hstep]
  have hdrains := drains { d with buffer := d.buffer ++ (front ++ b :: after) } []
  unfold Drains at hdrains
  rw [scan_emptied_append hd, hscan] at hdrains
  rcases hdrains with ⟨_, _, hok, _⟩ | ⟨d', cause, herror, hdrain⟩
  · cases hok
  · cases herror
    obtain ⟨d₃, rest, hstop, hleft⟩ := drain_refusal _ [] fault (by rw [hdrain])
    have hsame : d.emptied.refusal? (d.buffer ++ (front ++ b :: after)) = some (d₂, after) := by
      rw [refusal?_append d.emptied d d.buffer _ [] hd.scan_emptied, hrefusal]
    obtain ⟨rfl, rfl⟩ := Prod.mk.inj (Option.some.inj (hsame.symm.trans hstop))
    rw [hdrain] at hleft
    unfold decode
    rw [hdrain]
    exact Prod.ext hleft rfl

section
variable (limit : Nat) (base64 : Bool)

/-- A fresh decoder that takes a line feed to belong to a line before. -/
def waiting : Decoder := { new limit base64 with skipLineFeed := true }

theorem skip_skip (d : Decoder) : d.skip.skip = d.skip := by
  obtain ⟨limit, base64, buffer, pending, skipLineFeed⟩ := d
  cases skipLineFeed <;> cases buffer <;> rfl

theorem drain_skip (d : Decoder) (done : List Event) : d.skip.drain done = d.drain done := by
  have hskip := d.skip_skip
  cases hline : d.skip.takeLine? with
  | none =>
    rw [drain_of_takeLine?_none d done hline,
      drain_of_takeLine?_none d.skip done (by rw [hskip, hline]), hskip]
  | some taken =>
    obtain ⟨line, rest⟩ := taken
    have hline' : d.skip.skip.takeLine? = some (line, rest) := by rw [hskip, hline]
    rcases hread : (rest.readLine line).2 with _ | fault | e
    · rw [drain_of_takeLine? d rest line done hline none hread,
        drain_of_takeLine? d.skip rest line done hline' none hread]
    · rw [drain_of_takeLine?_fault d rest line done hline fault hread,
        drain_of_takeLine?_fault d.skip rest line done hline' fault hread]
    · rw [drain_of_takeLine? d rest line done hline (some e) hread,
        drain_of_takeLine? d.skip rest line done hline' (some e) hread]

/-- The line feed that is waited for closes nothing where it is read as a blank line. -/
theorem decode_waiting (b : UInt8) (t : Bytes) :
    (waiting limit base64).decode (b :: t) = (new limit base64).decode (b :: t) := by
  have hdrain : ({ waiting limit base64 with buffer := b :: t } : Decoder).drain [] =
      ({ new limit base64 with buffer := b :: t } : Decoder).drain [] := by
    rw [← drain_skip]
    by_cases hb : b = lineFeed
    · subst hb
      have hline : ({ new limit base64 with buffer := lineFeed :: t } : Decoder).skip.takeLine? =
          some ([], { new limit base64 with buffer := t }) := rfl
      rw [drain_of_takeLine? _ _ [] [] hline none rfl]
      rfl
    · have hskip : ({ waiting limit base64 with buffer := b :: t } : Decoder).skip =
          { new limit base64 with buffer := b :: t } := by
        simp only [skip, waiting, new, hb, if_false]
      rw [hskip]
  unfold decode
  simp only [waiting, new, List.nil_append] at hdrain ⊢
  rw [hdrain]

theorem answers_waiting (chunks : List Bytes) :
    (waiting limit base64).answers chunks = (new limit base64).answers chunks := by
  induction chunks with
  | nil => rfl
  | cons chunk rest ih =>
    cases chunk with
    | nil =>
      have hwaiting : (waiting limit base64).CaughtUp := ⟨isLine_nil, fun _ => rfl⟩
      have hfresh := decode_of_scan (caughtUp_new limit base64) _ [] [] rfl
      rw [answers, answers, decode_of_scan hwaiting _ [] [] rfl, hfresh]
      simp only
      rw [ih]
      rfl
    | cons b t => rw [answers, answers, decode_waiting]

/-- What is left to read comes to the same in the buffer and in front of the next chunk. -/
theorem answers_left (skip : Bool) (after first : Bytes) (later : List Bytes) :
    ({ new limit base64 with buffer := after, skipLineFeed := skip } : Decoder).skip.answers
        (first :: later) =
      (new limit base64).answers ((afterBreak skip after ++ first) :: later) := by
  have hbuffer : ∀ s : Bytes, ({ new limit base64 with buffer := s } : Decoder).answers
      (first :: later) = (new limit base64).answers ((s ++ first) :: later) := fun _ => rfl
  unfold afterBreak
  cases skip with
  | false =>
    rw [if_neg fun h => Bool.false_ne_true h.1]
    exact hbuffer after
  | true =>
    cases after with
    | nil => exact answers_waiting limit base64 (first :: later)
    | cons b t =>
      by_cases hb : b = lineFeed
      · subst hb
        exact hbuffer t
      · have hskip : Decoder.skip
            { new limit base64 with buffer := b :: t, skipLineFeed := true } =
              { new limit base64 with buffer := b :: t } := by
          simp only [Decoder.skip, hb, if_false, new]
        rw [hskip, if_neg fun h => hb (Option.some.inj h.2)]
        exact hbuffer (b :: t)

end

/-- A line feed is waited for exactly after a carriage return. -/
theorem step_skipLineFeed (d : Decoder) (b : UInt8) :
    (d.step b).1.skipLineFeed = (b == carriageReturn) := by
  unfold step
  split
  · next hpair =>
    rw [Bool.and_eq_true, beq_iff_eq] at hpair
    rw [hpair.2]
    rfl
  · split
    · unfold readLine
      split <;> rfl
    · next hb =>
      have hother := (isTerminator_eq_false_iff b).mp (Bool.eq_false_iff.mpr hb)
      exact (beq_eq_false_iff_ne.mpr hother.2).symm

theorem scan_skipLineFeed (limit : Nat) (base64 : Bool) (s : Bytes) (d : Decoder)
    (events : List Event) (h : (new limit base64).scan s = .ok (d, events)) :
    d.skipLineFeed = (s.getLast? == some carriageReturn) := by
  rcases List.eq_nil_or_concat s with rfl | ⟨front, b, rfl⟩
  · cases h
    rfl
  · rw [List.concat_eq_append] at h ⊢
    obtain ⟨d₁, before, after, _, hlast, _⟩ := scan_of_append _ d front [b] events h
    have hskip := step_skipLineFeed d₁ b
    rcases step_cases d₁ b with ⟨d₂, found, hstep⟩ | ⟨d₂, fault, hstep⟩
    · rw [scan_cons d₁ d₂ b [] found hstep] at hlast
      obtain ⟨_, hnil, _⟩ := prepend_eq_ok _ _ _ _ hlast
      cases hnil
      rw [hstep] at hskip
      simpa using hskip
    · rw [scan_cons_fault d₁ d₂ b [] fault hstep] at hlast
      cases hlast

def opened (limit : Nat) (s : Bytes) : Decoder :=
  (within limit (openFrame s) (openLine s) (s.getLast? == some carriageReturn)).encoded

/-- What a decoder for base64 makes of a text, and where it stands then. -/
theorem scan_opened (limit : Nat) (s : Bytes) :
    (new limit true).scan s = match firstFault? (eventsOf s) with
      | none => .ok (opened limit s, intact (eventsOf s))
      | some cause => .error (.base64 cause) := by
  obtain ⟨skip, hscan⟩ := scan_eq_eventsOf limit s
  have hskip : skip = (s.getLast? == some carriageReturn) :=
    scan_skipLineFeed limit false s _ _ hscan
  rw [hskip] at hscan
  exact scan_encoded (new limit false) _ rfl s _ hscan

end Decoder

/-- A frame is refused for the data of its event. -/
theorem Pending.close_ofLines_error_iff (frame : List Bytes) (cause : Base64.Fault) :
    (Pending.ofLines frame).close true = some (.error (.base64 cause)) ↔
      decodeData (frameEvent frame) = .error cause := by
  rw [Pending.close_ofLines_true]
  cases frame with
  | nil => constructor <;> intro h <;> cases h
  | cons line rest =>
    simp only [List.isEmpty_cons, Bool.false_eq_true, if_false, Option.map_some, Option.some.injEq]
    cases decodeData (frameEvent (line :: rest)) with
    | ok decoded => constructor <;> intro h <;> cases h
    | error fault => simp only [Except.mapError, Except.error.injEq, Fault.base64.injEq]

/-- In a chunk that comes after some text, a blank line closes the first frame with invalid data.
The last argument is what follows the line break of this line: a carriage return and a line
feed behind it are one break. -/
inductive ClosesInvalid (past : Bytes) (cause : Base64.Fault) : Bytes → Bytes → Prop
  | intro (front : Bytes) (b : UInt8) (after : Bytes)
      (hsound : firstFault? (eventsOf (past ++ front)) = none)
      (hblank : openLine (past ++ front) = [])
      (hinvalid : decodeData (frameEvent (openFrame (past ++ front))) = .error cause)
      (hbreak : isTerminator b = true)
      (hpair : ¬((past ++ front).getLast? = some carriageReturn ∧ b = lineFeed)) :
      ClosesInvalid past cause (front ++ b :: after) (afterBreak (b == carriageReturn) after)

namespace Decoder

theorem step_opened_iff (limit : Nat) (s : Bytes) (b : UInt8) (cause : Base64.Fault) :
    (∃ d, (opened limit s).step b = (d, some (.error (.base64 cause)))) ↔
      openLine s = [] ∧ decodeData (frameEvent (openFrame s)) = .error cause ∧
        isTerminator b = true ∧ ¬(s.getLast? = some carriageReturn ∧ b = lineFeed) := by
  rw [← Pending.close_ofLines_error_iff]
  constructor
  · rintro ⟨d, hstep⟩
    obtain ⟨hbreak, hpair, hblank, hclose, _⟩ := step_refuses _ d b _ hstep
    refine ⟨hblank, hclose, hbreak, ?_⟩
    rintro ⟨hlast, hfeed⟩
    exact hpair ⟨beq_iff_eq.mpr hlast, hfeed⟩
  · rintro ⟨hblank, hclose, hbreak, hpair⟩
    have hread : ((s.getLast? == some carriageReturn) && b == lineFeed) = false := by
      simpa [Bool.and_eq_false_iff] using hpair
    refine ⟨{ new limit true with skipLineFeed := b == carriageReturn }, ?_⟩
    simp only [step, opened, encoded, within, hread, hbreak, hblank, readLine, hclose,
      Bool.false_eq_true, if_false, if_true, List.isEmpty_nil]
    rfl

/-- A decoder for plain text refuses nothing for its data. -/
theorem base64_of_fault (limit : Nat) (base64 : Bool) (s : Bytes) (cause : Base64.Fault)
    (h : (new limit base64).scan s = .error (.base64 cause)) : base64 = true := by
  cases base64 with
  | true => rfl
  | false =>
    obtain ⟨skip, hscan⟩ := scan_eq_eventsOf limit s
    rw [hscan] at h
    cases h

/-- A call fails for invalid data. There is a blank line in the chunk that closes the first frame
with such data, and for what follows its line break: whatever is fed later, call by call the
answers are those of a fresh decoder that gets it in front of the next chunk. -/
theorem answers_after_invalid (limit : Nat) (base64 : Bool) (past : List Bytes) (d : Decoder)
    (events : List Event) (hfed : (new limit base64).feed past = .ok (d, events)) (chunk : Bytes)
    (cause : Base64.Fault) (h : (d.decode chunk).2 = .error (.base64 cause)) :
    (∃ rest, ClosesInvalid past.flatten cause chunk rest) ∧
      ∀ rest, ClosesInvalid past.flatten cause chunk rest → ∀ first later,
        (d.decode chunk).1.answers (first :: later) =
          (new limit base64).answers ((rest ++ first) :: later) := by
  have hsettled := settled_new limit base64
  have hpast := scan_of_feed _ past _ hsettled hfed
  have hd := hsettled.toCaughtUp.scan past.flatten events hpast
  have hfault := scan_of_base64 hd chunk cause h
  obtain rfl : base64 = true := by
    apply base64_of_fault limit base64 (past.flatten ++ chunk) cause
    rw [scan_append _ d _ _ events hpast, hfault, prepend_error]
  constructor
  · obtain ⟨front, b, after, d₁, found, d₂, rfl, hfront, hstep⟩ :=
      exists_step_of_scan_fault d chunk _ hfault
    have hopened := scan_opened limit (past.flatten ++ front)
    rw [scan_append _ d _ _ events hpast, hfront, prepend_ok] at hopened
    cases hsound : firstFault? (eventsOf (past.flatten ++ front)) with
    | some cause =>
      rw [hsound] at hopened
      cases hopened
    | none =>
      rw [hsound] at hopened
      obtain ⟨rfl, _⟩ := Prod.mk.inj (Except.ok.inj hopened)
      obtain ⟨hblank, hinvalid, hbreak, hpair⟩ := (step_opened_iff _ _ _ _).mp ⟨d₂, hstep⟩
      exact ⟨_, .intro front b after hsound hblank hinvalid hbreak hpair⟩
  · rintro rest ⟨front, b, after, hsound, hblank, hinvalid, hbreak, hpair⟩ first later
    have hopened := scan_opened limit (past.flatten ++ front)
    rw [hsound] at hopened
    obtain ⟨d', before, found, hbefore, hfront, _⟩ := scan_of_append _ _ _ _ _ hopened
    obtain ⟨rfl, _⟩ := Prod.mk.inj (Except.ok.inj (hbefore.symm.trans hpast))
    obtain ⟨d₂, hstep⟩ := (step_opened_iff limit _ b cause).mpr ⟨hblank, hinvalid, hbreak, hpair⟩
    obtain ⟨_, _, _, _, rfl⟩ := step_refuses _ d₂ b _ hstep
    rw [decode_of_step hd front after b _ _ found _ hfront hstep]
    exact answers_left limit true (b == carriageReturn) after first later

/-- A decoder in the middle of a line break, behind the id of a frame. -/
def halfway : Decoder :=
  { new 64 true with pending := { id := some [51], touched := true }, skipLineFeed := true }

/-- The line that closes the frame ends on the carriage return at the end of the chunk, and its
line feed comes with the next chunk. -/
theorem answers_after_invalid_halfway :
    (new 64 true).feed [Bytes.ofString "id: 3\r"] = .ok (halfway, []) ∧
      (halfway.decode (Bytes.ofString "\ndata: !\r\r")).2 = .error (.base64 (.symbol 33 0)) ∧
      ClosesInvalid (Bytes.ofString "id: 3\r") (.symbol 33 0) (Bytes.ofString "\ndata: !\r\r") [] ∧
      (halfway.decode (Bytes.ofString "\ndata: !\r\r")).1.answers
        [Bytes.ofString "\ndata: aGk=\n\n"] = [.ok [{ data := Bytes.ofString "hi" }]] := by
  have hfed : (new 64 true).feed [Bytes.ofString "id: 3\r"] = .ok (halfway, []) := by
    decide +kernel
  have hfault : (halfway.decode (Bytes.ofString "\ndata: !\r\r")).2 =
      .error (.base64 (.symbol 33 0)) := by
    decide +kernel
  have hcloses : ClosesInvalid (Bytes.ofString "id: 3\r") (.symbol 33 0)
      (Bytes.ofString "\ndata: !\r\r") [] :=
    .intro (Bytes.ofString "\ndata: !\r") 13 [] (by decide +kernel) (by decide +kernel)
      (by decide +kernel) rfl (by decide +kernel)
  have hfresh : (new 64 true).answers [Bytes.ofString "\ndata: aGk=\n\n"] =
      [.ok [{ data := Bytes.ofString "hi" }]] := by
    decide +kernel
  obtain ⟨_, hanswers⟩ := answers_after_invalid 64 true _ halfway [] hfed _ _ hfault
  exact ⟨hfed, hfault, hcloses, (hanswers [] hcloses _ []).trans hfresh⟩

end Decoder

end EventBroker.Frame
