import EventBroker.Proofs.Frame.Drain
import EventBroker.Proofs.Frame.Grammar

/-!
Calls one after another, whether they succeed or not. A decoder that refused a frame or was
over its limit goes on with the next chunk. What holds of a decoder whichever line it reads
next holds after any calls; in particular the frame under way is always made of whole lines,
so that each event that is handed out belongs to a frame of lines.
-/
namespace EventBroker.Frame.Decoder

open Bytes

def answers (d : Decoder) : List Bytes → List (Except Fault (List Event))
  | [] => []
  | chunk :: rest => (d.decode chunk).2 :: answers (d.decode chunk).1 rest

/-- The settings and the frame under way are all that these conditions look at. -/
structure Steady (P : Decoder → Prop) (Q : Event → Prop) : Prop where
  frame : ∀ d d', P d → d'.base64 = d.base64 → d'.pending = d.pending → P d'
  line : ∀ d line, P d → IsLine line → P (d.readLine line).1 ∧
    ∀ e, (d.readLine line).2 = some (.ok e) → Q e

section
variable {P : Decoder → Prop} {Q : Event → Prop}

theorem skip_same (d : Decoder) : d.skip.base64 = d.base64 ∧ d.skip.pending = d.pending := by
  unfold skip
  split <;> exact ⟨rfl, rfl⟩

/-- A line that is taken off the buffer leaves the frame under way as it is. -/
theorem Steady.takeLine? (h : Steady P Q) (d rest : Decoder) (line : Bytes) (hd : P d)
    (htaken : d.skip.takeLine? = some (line, rest)) : P rest ∧ IsLine line := by
  obtain ⟨b, after, _, hline, _, rfl⟩ :=
    takeLine?_eq_some d.skip rest line (skip_of_takeLine? d _ htaken) htaken
  obtain ⟨hbase64, hpending⟩ := d.skip_same
  obtain ⟨hbase64', hpending'⟩ :=
    skip_same { d.skip with buffer := after, skipLineFeed := b == carriageReturn }
  exact ⟨h.frame d _ hd (hbase64'.trans hbase64) (hpending'.trans hpending), hline⟩

theorem Steady.drain (h : Steady P Q) (d : Decoder) (done : List Event) (hd : P d)
    (hdone : ∀ e ∈ done, Q e) :
    P (d.drain done).1 ∧ ∀ all, (d.drain done).2 = .ok all → ∀ e ∈ all, Q e := by
  induction d, done using drain.induct with
  | case1 d done hline =>
    rw [drain_of_takeLine?_none d done hline]
    constructor
    · exact h.frame d _ hd d.skip_same.1 d.skip_same.2
    · rintro all ⟨⟩
      exact hdone
  | case2 d done line rest hline _ hnone ih =>
    obtain ⟨hrest, hread⟩ := h.takeLine? d rest line hd hline
    rw [drain_of_takeLine? d rest line done hline none hnone]
    exact ih (h.line rest line hrest hread).1 hdone
  | case3 d done line rest hline _ e hsome ih =>
    obtain ⟨hrest, hread⟩ := h.takeLine? d rest line hd hline
    obtain ⟨hnext, hevent⟩ := h.line rest line hrest hread
    rw [drain_of_takeLine? d rest line done hline (some e) hsome]
    apply ih hnext
    intro e' he'
    rcases List.mem_cons.mp he' with rfl | hold
    · exact hevent e' hsome
    · exact hdone e' hold
  | case4 d done line rest hline _ fault hfault =>
    obtain ⟨hrest, hread⟩ := h.takeLine? d rest line hd hline
    rw [drain_of_takeLine?_fault d rest line done hline fault hfault]
    constructor
    · exact (h.line rest line hrest hread).1
    · intro all hall
      cases hall

theorem Steady.decode (h : Steady P Q) (d : Decoder) (chunk : Bytes) (hd : P d) :
    P (d.decode chunk).1 ∧ ∀ events, (d.decode chunk).2 = .ok events → ∀ e ∈ events, Q e := by
  have hfed : P { d with buffer := d.buffer ++ chunk } := h.frame d _ hd rfl rfl
  obtain ⟨hleft, hall⟩ := h.drain _ [] hfed (fun e he => by cases he)
  unfold Decoder.decode
  cases hresult : ({ d with buffer := d.buffer ++ chunk } : Decoder).drain [] with
  | mk d' result =>
    rw [hresult] at hleft hall
    cases result with
    | error fault => exact ⟨hleft, nofun⟩
    | ok done =>
      simp only
      split
      · exact ⟨hleft, nofun⟩
      · refine ⟨hleft, ?_⟩
        rintro events ⟨⟩ e he
        exact hall done rfl e (List.mem_reverse.mp he)

/-- What holds of the events of every call, from a decoder on that the condition holds of. -/
theorem Steady.answers (h : Steady P Q) (d : Decoder) (chunks : List Bytes) (hd : P d)
    (events : List Event) (hanswer : .ok events ∈ d.answers chunks) : ∀ e ∈ events, Q e := by
  induction chunks generalizing d with
  | nil => cases hanswer
  | cons chunk rest ih =>
    obtain ⟨hnext, hevents⟩ := h.decode d chunk hd
    rcases List.mem_cons.mp hanswer with hfirst | hlater
    · exact hevents events hfirst.symm
    · exact ih _ hnext hlater

end

def MadeOfLines (base64 : Bool) (d : Decoder) : Prop :=
  d.base64 = base64 ∧ ∃ frame : List Bytes, (∀ l ∈ frame, IsLine l) ∧ d.pending = .ofLines frame

def ClosesLines (base64 : Bool) (e : Event) : Prop :=
  ∃ frame : List Bytes, (∀ l ∈ frame, IsLine l) ∧
    (Pending.ofLines frame).close base64 = some (.ok e)

theorem steady_madeOfLines (base64 : Bool) : Steady (MadeOfLines base64) (ClosesLines base64) := by
  constructor
  · rintro d d' ⟨hflag, frame, hframe, hpending⟩ hbase64 hsame
    exact ⟨hbase64.trans hflag, frame, hframe, hsame.trans hpending⟩
  · rintro d line ⟨rfl, frame, hframe, hpending⟩ hline
    unfold readLine
    split
    · refine ⟨⟨rfl, [], nofun, rfl⟩, ?_⟩
      intro e he
      rw [hpending] at he
      exact ⟨frame, hframe, he⟩
    · refine ⟨⟨rfl, frame ++ [line], ?_, ?_⟩, nofun⟩
      · intro l hl
        rcases List.mem_append.mp hl with hold | hnew
        · exact hframe l hold
        · rw [List.mem_singleton.mp hnew]
          exact hline
      · rw [Pending.ofLines_concat, hpending]

/-- Whatever the chunks and whatever fails on the way, an event is that of a frame of lines. -/
theorem closesLines_of_answers (limit : Nat) (base64 : Bool) (chunks : List Bytes)
    (events : List Event) (hanswer : .ok events ∈ (new limit base64).answers chunks) (e : Event)
    (he : e ∈ events) : ClosesLines base64 e :=
  (steady_madeOfLines base64).answers _ chunks ⟨rfl, [], nofun, rfl⟩ events hanswer e he

end EventBroker.Frame.Decoder
