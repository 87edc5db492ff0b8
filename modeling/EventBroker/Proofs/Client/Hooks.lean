import EventBroker.Proofs.Client.Sharing
import Mathlib.Logic.Function.Basic

/-!
The calls of the two hooks of a client. A connection that its peer accepts is told of as it
is made and as it ends, once each, whether a background loop or a call reads it, whatever
ends it, and however many others there are. Nothing else is ever told of.
-/
namespace EventBroker

def Loop.line (l : Loop) : String × Bool := (l.topic, l.phase != .ended)

def Shared.Reading.line (r : Shared.Reading) : String × Bool := (r.topic, r.reader.isSome)

theorem map_modify_eq_set {α β : Type} (g : α → β) (f : α → α) (xs : List α) (i : Nat) (a : α)
    (h : xs[i]? = some a) : (xs.modify i f).map g = (xs.map g).set i (g (f a)) := by
  induction xs generalizing i with
  | nil => cases h
  | cons x xs ih =>
    cases i with
    | zero =>
      cases h
      rfl
    | succ i => exact congrArg (g x :: ·) (ih i h)

/-- An open connection stays what it is if only its reader or its phase changes. -/
theorem Loop.line_eq {l l' : Loop} (htopic : l'.topic = l.topic) (hopen : l.phase ≠ .ended)
    (hopen' : l'.phase ≠ .ended) : l'.line = l.line := by
  rw [line, line, htopic, bne_iff_ne.mpr hopen, bne_iff_ne.mpr hopen']

theorem set_eq_self {α : Type} (xs : List α) (i : Nat) (a : α) (h : xs[i]? = some a) :
    xs.set i a = xs := by
  obtain ⟨hlt, rfl⟩ := List.getElem?_eq_some_iff.mp h
  exact List.set_getElem_self hlt

namespace Client

/-- Whether a loop ends with its next step: it is cancelled, or nothing more comes on its
connection, or its channel has no receiver. -/
def leaves (c : Client) (l : Loop) : Bool :=
  l.cancelled ||
    match l.phase with
    | .reading => l.reader.next.2.isLast
    | .holding _ => !(c.channels[l.channel]?).any (·.receiving)
    | .reserved _ | .ended => false

theorem call_of_hooked {c : Client} (h : c.hooked = true) (t : TopicCall) :
    c.call t = { c with calls := c.calls ++ [t] } := by
  rw [call, if_pos h]

theorem connect_of_hooked {c : Client} (h : c.hooked = true) (topic : Option String) :
    (c.isAdmitted topic = false ∧
        ∃ peer fault, c.connect topic = ({ c with peer }, .error fault)) ∨
      (c.isAdmitted topic = true ∧ ∃ peer r, c.connect topic =
        ({ c with peer, calls := c.calls ++ [.connect (topic.getD "")] }, .ok (c.reader r))) := by
  rcases c.connect_cases topic with hrefused | ⟨hadmitted, peer, r, hconnect⟩
  · exact Or.inl hrefused
  · rw [call_of_hooked (c := { c with peer }) h] at hconnect
    exact Or.inr ⟨hadmitted, peer, r, hconnect⟩

structure SameCalls (c c' : Client) : Prop where
  lines : c'.loops.map Loop.line = c.loops.map Loop.line
  calls : c'.calls = c.calls
  hooked : c'.hooked = c.hooked

theorem SameCalls.refl (c : Client) : c.SameCalls c := ⟨rfl, rfl, rfl⟩

theorem SameCalls.setLoop {c c' : Client} (h : c.SameCalls c') (hloops : c'.loops = c.loops)
    (id : Nat) (l : Loop) (f : Loop → Loop) (hl : c.loops[id]? = some l)
    (hline : (f l).line = l.line) : c.SameCalls (c'.setLoop id f) := by
  refine ⟨?_, h.calls, h.hooked⟩
  rw [Client.setLoop, hloops, map_modify_eq_set _ _ _ _ _ hl, hline]
  apply set_eq_self
  rw [List.getElem?_map, hl]
  rfl

theorem sameCalls_unsubscribe (c : Client) (channel : Nat) :
    c.SameCalls (c.unsubscribe channel) := by
  have hfold : ∀ (entries : List (Nat × Nat)) (c : Client),
      (entries.foldl cancelEntry c).calls = c.calls ∧
        (entries.foldl cancelEntry c).hooked = c.hooked := by
    intro entries
    induction entries with
    | nil => exact fun _ => ⟨rfl, rfl⟩
    | cons entry entries ih => exact fun c => ih (c.cancelEntry entry)
  obtain ⟨hcalls, hhooked⟩ := hfold (c.table.filter (·.1 == channel)) c
  refine ⟨?_, hcalls, hhooked⟩
  apply List.ext_getElem?
  intro id
  rw [List.getElem?_map, List.getElem?_map, loops_unsubscribe]
  cases c.loops[id]? <;> rfl

/-- A loop that is cancelled ends with its next step, whatever it was about to do. -/
theorem exists_endLoop_of_cancelled (c : Client) (id : Nat) (l : Loop)
    (hl : c.loops[id]? = some l) (hopen : l.phase ≠ .ended) (hcancelled : l.cancelled = true) :
    ∃ c₀ : Client, c₀.loops = c.loops ∧ c₀.calls = c.calls ∧ c₀.hooked = c.hooked ∧
      c.stepLoop id = some (c₀.endLoop id l) := by
  unfold stepLoop
  rw [hl]
  cases hphase : l.phase with
  | ended => exact absurd hphase hopen
  | reading | holding e =>
    exact ⟨c, rfl, rfl, rfl, by simp only [hphase, hcancelled, if_true]⟩
  | reserved e =>
    exact ⟨c.setChannel l.channel .release, rfl, rfl, rfl, by
      simp only [hphase, hcancelled, if_true]⟩

/-- A step of a loop whose connection is open ends it and calls the hook, or does neither. -/
theorem stepLoop_cases (c : Client) (id : Nat) (l : Loop) (hl : c.loops[id]? = some l)
    (hopen : l.phase ≠ .ended) :
    (c.leaves l = true ∧ ∃ c₀ : Client, c₀.loops = c.loops ∧ c₀.calls = c.calls ∧
        c₀.hooked = c.hooked ∧ c.stepLoop id = some (c₀.endLoop id l)) ∨
      (c.leaves l = false ∧ c.SameCalls ((c.stepLoop id).getD c)) := by
  cases hcancelled : l.cancelled with
  | true =>
    refine Or.inl ⟨?_, c.exists_endLoop_of_cancelled id l hl hopen hcancelled⟩
    rw [leaves, hcancelled, Bool.true_or]
  | false =>
    have hsame := SameCalls.refl c
    have hstays : ∀ (c₀ : Client) (f : Loop → Loop), c₀.loops = c.loops → c.SameCalls c₀ →
        (f l).topic = l.topic → (f l).phase ≠ .ended → c.SameCalls (c₀.setLoop id f) :=
      fun c₀ f hloops hsame htopic hphase =>
        hsame.setLoop hloops id l f hl (Loop.line_eq htopic hopen hphase)
    unfold stepLoop leaves
    rw [hl]
    cases hphase : l.phase with
    | ended => exact absurd hphase hopen
    | reading =>
      simp only [hphase, hcancelled, Bool.false_eq_true, if_false, Bool.false_or]
      rcases l.reader.next with ⟨reader, e | _ | fault | _⟩
      · refine Or.inr ⟨rfl, hstays _ _ (c.sameLoops_noteRetry e).1 ?_ rfl ?_⟩
        · rw [noteRetry_eq]
          exact ⟨rfl, rfl, rfl⟩
        · show (if e.hasData then Phase.holding e else .reading) ≠ .ended
          cases e.hasData <;> nofun
      · exact Or.inl ⟨rfl, c, rfl, rfl, rfl, rfl⟩
      · exact Or.inl ⟨rfl, c, rfl, rfl, rfl, rfl⟩
      · exact Or.inr ⟨rfl, hsame⟩
    | holding e =>
      simp only [hphase, hcancelled, Bool.false_eq_true, if_false, Bool.false_or]
      cases c.channels[l.channel]? with
      | none => exact Or.inl ⟨rfl, c, rfl, rfl, rfl, rfl⟩
      | some ch =>
        simp only [Option.any_some]
        cases ch.receiving with
        | false => exact Or.inl ⟨rfl, c, rfl, rfl, rfl, rfl⟩
        | true =>
          refine Or.inr ⟨rfl, ?_⟩
          cases ch.hasRoom with
          | false => exact hsame
          | true =>
            exact hstays (c.setChannel l.channel .reserve)
              (fun l => { l with phase := .reserved e }) rfl ⟨rfl, rfl, rfl⟩ rfl nofun
    | reserved e =>
      simp only [hphase, hcancelled, Bool.false_eq_true, if_false, Bool.false_or]
      refine Or.inr ⟨trivial, hstays _ _ (sameLoops_noteDelivered _ e.id).1 ?_ rfl nofun⟩
      rw [noteDelivered_eq]
      exact ⟨rfl, rfl, rfl⟩

end Client

namespace Shared

inductive Kind
  | loop
  | reading
  deriving Repr, DecidableEq

structure Line where
  kind : Kind
  id : Nat
  deriving Repr, DecidableEq

def lines (s : Shared) : Kind → List (String × Bool)
  | .loop => s.client.loops.map Loop.line
  | .reading => s.readings.map Reading.line

def line? (s : Shared) (line : Line) : Option (String × Bool) := (s.lines line.kind)[line.id]?

def openFor (s : Shared) (kind : Kind) (topic : String) : Nat := (s.lines kind).count (topic, true)

def Act.subject (s : Shared) : Act → Option Line
  | .subscribeChannel _ _ => some ⟨.loop, s.client.loops.length⟩
  | .stepLoop id => some ⟨.loop, id⟩
  | .ask _ => some ⟨.reading, s.readings.length⟩
  | .read id => some ⟨.reading, id⟩
  | .openChannel _ | .closeReceiver _ | .receive _ | .setLastEventId _ | .unsubscribe _ => none

/-- What an act comes to for the connections, with the calls that it makes. -/
inductive Turn (s s' : Shared) (subject : Option Line) : List TopicCall → Prop
  | kept (hlines : s'.lines = s.lines) : Turn s s' subject []
  | opened (kind : Kind) (topic : String)
      (hsubject : subject = some ⟨kind, (s.lines kind).length⟩)
      (hlines : s'.lines = Function.update s.lines kind (s.lines kind ++ [(topic, true)])) :
      Turn s s' subject [.connect topic]
  | closed (kind : Kind) (id : Nat) (topic : String) (hsubject : subject = some ⟨kind, id⟩)
      (hopen : (s.lines kind)[id]? = some (topic, true))
      (hlines : s'.lines = Function.update s.lines kind ((s.lines kind).set id (topic, false))) :
      Turn s s' subject [.disconnect topic]

structure Turns (s s' : Shared) (subject : Option Line) (made : List TopicCall) : Prop where
  turn : Turn s s' subject made
  calls : s'.client.calls = s.client.calls ++ made
  hooked : s'.client.hooked = true

theorem lines_eq {s s' : Shared} (h : s'.client.loops.map Loop.line = s.client.loops.map Loop.line)
    (hreadings : s'.readings.map Reading.line = s.readings.map Reading.line) :
    s'.lines = s.lines := by
  funext kind
  cases kind with
  | loop => exact h
  | reading => exact hreadings

theorem lines_loop {s s' : Shared} (xs : List (String × Bool))
    (h : s'.client.loops.map Loop.line = xs) (hreadings : s'.readings = s.readings) :
    s'.lines = Function.update s.lines .loop xs := by
  funext kind
  cases kind with
  | loop => exact h
  | reading => rw [lines, hreadings]; rfl

theorem lines_reading {s s' : Shared} (xs : List (String × Bool))
    (h : s'.readings.map Reading.line = xs)
    (hloops : s'.client.loops.map Loop.line = s.client.loops.map Loop.line) :
    s'.lines = Function.update s.lines .reading xs := by
  funext kind
  cases kind with
  | loop => exact hloops
  | reading => exact h

section
variable (s : Shared) (hhooked : s.client.hooked = true)
include hhooked

theorem turns_same (s' : Shared) (subject : Option Line) (h : s.client.SameCalls s'.client)
    (hreadings : s'.readings.map Reading.line = s.readings.map Reading.line) :
    s.Turns s' subject [] := by
  refine ⟨.kept (lines_eq h.lines hreadings), ?_, h.hooked.trans hhooked⟩
  rw [h.calls, List.append_nil]

theorem turns_ask (topic : Option String) :
    s.Turns (s.step (.ask topic)) (Act.subject s (.ask topic))
      (if s.client.isAdmitted topic then [.connect (topic.getD "")] else []) := by
  rcases Client.connect_of_hooked hhooked topic with
    ⟨hrefused, peer, fault, hconnect⟩ | ⟨hadmitted, peer, r, hconnect⟩
  · rw [hrefused, if_neg Bool.false_ne_true]
    apply s.turns_same hhooked
    · simp only [step, ask, hconnect]
      exact ⟨rfl, rfl, rfl⟩
    · simp only [step, ask, hconnect]
  · rw [hadmitted, if_pos rfl]
    simp only [step, ask, hconnect]
    refine ⟨.opened .reading _ ?_ (lines_reading _ ?_ rfl), rfl, hhooked⟩
    · rw [Act.subject, lines, List.length_map]
    · rw [List.map_append]
      rfl

theorem turns_subscribeChannel (topic : String) (channel : Nat) :
    s.Turns (s.step (.subscribeChannel topic channel))
      (Act.subject s (.subscribeChannel topic channel))
      (if s.client.isAdmitted (some topic) then [.connect topic] else []) := by
  rcases Client.connect_of_hooked hhooked (some topic) with
    ⟨hrefused, peer, fault, hconnect⟩ | ⟨hadmitted, peer, r, hconnect⟩
  · rw [hrefused, if_neg Bool.false_ne_true]
    apply s.turns_same hhooked
    · simp only [step, Client.subscribeChannel, hconnect]
      exact ⟨rfl, rfl, rfl⟩
    · rfl
  · rw [hadmitted, if_pos rfl]
    simp only [step, Client.subscribeChannel, hconnect]
    refine ⟨.opened .loop topic ?_ (lines_loop _ ?_ rfl), rfl, hhooked⟩
    · rw [Act.subject, lines, List.length_map]
    · rw [List.map_append]
      rfl

theorem turns_stepLoop (id : Nat) (l : Loop) (hl : s.client.loops[id]? = some l)
    (hopen : l.phase ≠ .ended) :
    s.Turns (s.step (.stepLoop id)) (Act.subject s (.stepLoop id))
      (if s.client.leaves l then [.disconnect l.topic] else []) := by
  rcases s.client.stepLoop_cases id l hl hopen with
    ⟨hleaves, c₀, hloops, hcalls, hhooked₀, hstep⟩ | ⟨hstays, hsame⟩
  · rw [hleaves, if_pos rfl, step, hstep, Option.getD_some]
    rw [← hhooked₀] at hhooked
    have hline : (s.lines .loop)[id]? = some (l.topic, true) := by
      rw [lines, List.getElem?_map, hl, Option.map_some, Loop.line, bne_iff_ne.mpr hopen]
    rw [Client.endLoop, Client.call_of_hooked (by exact hhooked)]
    refine ⟨.closed .loop id l.topic rfl hline (lines_loop _ ?_ rfl), ?_, hhooked⟩
    · exact (congrArg (fun loops => (List.modify loops id _).map Loop.line) hloops).trans
        (map_modify_eq_set _ _ _ _ _ hl)
    · exact congrArg (· ++ _) hcalls
  · rw [hstays, if_neg Bool.false_ne_true]
    exact s.turns_same hhooked _ _ hsame rfl

theorem turns_read (id : Nat) (topic : String) (reader : Reader)
    (hr : s.readings[id]? = some ⟨topic, some reader⟩) :
    s.Turns (s.step (.read id)) (Act.subject s (.read id))
      (if reader.next.2.isLast then [.disconnect topic] else []) := by
  have hline : (s.lines .reading)[id]? = some (topic, true) := by
    rw [lines, List.getElem?_map, hr]
    rfl
  have hlast : s.step (.read id) =
        ({ s with client := s.client.call (.disconnect topic) } : Shared).setReading id
          ⟨topic, none⟩ →
      s.Turns (s.step (.read id)) (Act.subject s (.read id)) [.disconnect topic] := by
    intro hstep
    rw [hstep, Client.call_of_hooked hhooked]
    refine ⟨.closed .reading id topic rfl hline (lines_reading _ ?_ rfl), rfl, hhooked⟩
    exact List.map_set
  rcases hnext : reader.next with ⟨later, e | _ | fault | _⟩
  · apply s.turns_same hhooked
    · simp only [step, read, hr, hnext, setReading, Client.handle_client]
      exact ⟨rfl, rfl, rfl⟩
    · simp only [step, read, hr, hnext, setReading]
      rw [List.map_set]
      exact set_eq_self _ _ _ hline
  · exact hlast (by simp only [step, read, hr, hnext])
  · exact hlast (by simp only [step, read, hr, hnext])
  · have hstep : s.step (.read id) = s := by simp only [step, read, hr, hnext]
    rw [hstep]
    exact s.turns_same hhooked _ _ (.refl _) rfl

/-- Any act makes one connection, ends one, or does neither, and the hooks are told accordingly. -/
theorem turns_step (a : Act) : ∃ made, s.Turns (s.step a) (a.subject s) made := by
  have hsame : ∀ c : Client, s.client.SameCalls c →
      ∃ made, s.Turns { s with client := c } (a.subject s) made :=
    fun c h => ⟨[], s.turns_same hhooked _ _ h rfl⟩
  have hnothing : s.step a = s → ∃ made, s.Turns (s.step a) (a.subject s) made := by
    intro hstep
    rw [hstep]
    exact hsame s.client (.refl _)
  cases a with
  | openChannel capacity => exact hsame _ ⟨rfl, rfl, rfl⟩
  | closeReceiver channel => exact hsame _ ⟨rfl, rfl, rfl⟩
  | setLastEventId id => exact hsame _ ⟨rfl, rfl, rfl⟩
  | receive channel =>
    apply hsame
    unfold Client.receive?
    split <;> exact ⟨rfl, rfl, rfl⟩
  | unsubscribe channel => exact hsame _ (s.client.sameCalls_unsubscribe channel)
  | subscribeChannel topic channel => exact ⟨_, s.turns_subscribeChannel hhooked topic channel⟩
  | ask topic => exact ⟨_, s.turns_ask hhooked topic⟩
  | stepLoop id =>
    cases hl : s.client.loops[id]? with
    | none =>
      refine hnothing ?_
      simp only [step, Client.stepLoop, hl, Option.getD_none]
    | some l =>
      by_cases hopen : l.phase = .ended
      · refine hnothing ?_
        rw [step, s.client.stepLoop_of_ended id l hl hopen, Option.getD_none]
      · exact ⟨_, s.turns_stepLoop hhooked id l hl hopen⟩
  | read id =>
    rcases hr : s.readings[id]? with _ | ⟨topic, _ | reader⟩
    · exact hnothing (by simp only [step, read, hr])
    · exact hnothing (by simp only [step, read, hr])
    · exact ⟨_, s.turns_read hhooked id topic reader hr⟩

end

def due : Option (String × Bool) → List TopicCall
  | none => []
  | some (topic, true) => [.connect topic]
  | some (topic, false) => [.connect topic, .disconnect topic]

theorem line?_update {s s' : Shared} (kind : Kind) (xs : List (String × Bool)) (id : Nat)
    (x : String × Bool) (hlines : s'.lines = Function.update s.lines kind xs)
    (hxs : ∀ i, xs[i]? = if i = id then some x else (s.lines kind)[i]?) :
    s'.line? = Function.update s.line? ⟨kind, id⟩ (some x) := by
  funext ⟨kind', i⟩
  rw [line?, hlines]
  by_cases hkind : kind' = kind
  · subst hkind
    rw [Function.update_self, hxs]
    by_cases hi : i = id
    · subst hi
      rw [if_pos rfl, Function.update_self]
    · rw [if_neg hi, Function.update_of_ne fun heq => hi (Line.mk.inj heq).2]
      rfl
  · rw [Function.update_of_ne hkind, Function.update_of_ne fun heq => hkind (Line.mk.inj heq).1]
    rfl

theorem getElem?_concat {α : Type} (xs : List α) (x : α) (i : Nat) :
    (xs ++ [x])[i]? = if i = xs.length then some x else xs[i]? := by
  rcases Nat.lt_trichotomy i xs.length with hlt | rfl | hgt
  · rw [List.getElem?_append_left hlt, if_neg (Nat.ne_of_lt hlt)]
  · rw [List.getElem?_concat_length, if_pos rfl]
  · rw [if_neg (Nat.ne_of_gt hgt), List.getElem?_eq_none (Nat.le_of_lt hgt),
      List.getElem?_eq_none (by rw [List.length_append]; exact hgt)]

/-- The calls that an act makes become due for the connection that it is about, and none become due
for another. -/
theorem Turn.due_line? {s s' : Shared} {subject : Option Line} {made : List TopicCall}
    (h : Turn s s' subject made) (line : Line) :
    due (s'.line? line) = due (s.line? line) ++ if subject = some line then made else [] := by
  have hother : ∀ (changed : Line) (x : Option (String × Bool)), line ≠ changed →
      s'.line? = Function.update s.line? changed x → subject = some changed →
      due (s'.line? line) = due (s.line? line) ++ if subject = some line then made else [] := by
    intro changed x hne hline hsubject
    have hnot : some changed ≠ some line := fun heq => hne (Option.some.inj heq).symm
    rw [hline, Function.update_of_ne hne, hsubject, if_neg hnot, List.append_nil]
  cases h with
  | kept hlines => rw [line?, line?, hlines, ite_self, List.append_nil]
  | opened kind topic hsubject hlines =>
    have hline := line?_update kind _ _ _ hlines (getElem?_concat _ _)
    by_cases heq : line = ⟨kind, (s.lines kind).length⟩
    · have hnone : s.line? line = none := by
        rw [heq]
        exact List.getElem?_eq_none (Nat.le_refl _)
      rw [hnone, hline, hsubject, heq, Function.update_self, if_pos rfl]
      rfl
    · exact hother _ _ heq hline hsubject
  | closed kind id topic hsubject hopen hlines =>
    obtain ⟨hlt, _⟩ := List.getElem?_eq_some_iff.mp hopen
    have hline := line?_update kind _ id (topic, false) hlines fun i => by
      rw [List.getElem?_set, if_pos hlt]
      simp only [eq_comm]
    by_cases heq : line = ⟨kind, id⟩
    · have hsome : s.line? line = some (topic, true) := by
        rw [heq]
        exact hopen
      rw [hsome, hline, hsubject, heq, Function.update_self, if_pos rfl]
      rfl
    · exact hother _ _ heq hline hsubject

/-- An open connection that is closed is not counted any more. -/
theorem count_set (xs : List (String × Bool)) (i : Nat) (t topic : String)
    (h : xs[i]? = some (t, true)) :
    xs.count (topic, true) = (xs.set i (t, false)).count (topic, true) +
      [TopicCall.disconnect t].count (.disconnect topic) := by
  induction xs generalizing i with
  | nil => cases h
  | cons x xs ih =>
    cases i with
    | zero =>
      cases h
      simp [List.count_cons]
    | succ i =>
      rw [List.set_cons_succ, List.count_cons, List.count_cons, ih i h]
      omega

/-- The open connections after those of one kind have changed. -/
theorem openFor_update {s s' : Shared} (kind : Kind) (xs : List (String × Bool))
    (hlines : s'.lines = Function.update s.lines kind xs) (topic : String) :
    s'.openFor .loop topic + s'.openFor .reading topic + s.openFor kind topic =
      s.openFor .loop topic + s.openFor .reading topic + xs.count (topic, true) := by
  have hreading : Kind.reading ≠ .loop := by decide
  unfold openFor
  rw [hlines]
  cases kind with
  | loop =>
    rw [Function.update_self, Function.update_of_ne hreading]
    omega
  | reading =>
    rw [Function.update_self, Function.update_of_ne hreading.symm]
    omega

/-- Per topic, an act keeps the balance between the calls and the open connections. -/
theorem Turn.count {s s' : Shared} {subject : Option Line} {made : List TopicCall}
    (h : Turn s s' subject made) (topic : String) :
    made.count (.connect topic) + (s.openFor .loop topic + s.openFor .reading topic) =
      made.count (.disconnect topic) + (s'.openFor .loop topic + s'.openFor .reading topic) := by
  cases h with
  | kept hlines =>
    unfold openFor
    rw [hlines]
    rfl
  | opened kind t _ hlines =>
    have hcount :
        [TopicCall.connect t].count (.connect topic) = [(t, true)].count (topic, true) := by
      simp [List.count_cons]
    have hnone : [TopicCall.connect t].count (.disconnect topic) = 0 := rfl
    have hopen := openFor_update kind _ hlines topic
    rw [List.count_append, ← hcount, ← openFor] at hopen
    omega
  | closed kind id t _ hopen hlines =>
    have hnone : [TopicCall.disconnect t].count (.connect topic) = 0 := rfl
    have hcount := count_set _ id t topic hopen
    have hopen := openFor_update kind _ hlines topic
    rw [← openFor] at hcount
    omega

structure Moment where
  shared : Shared
  act : Act

def Moment.called (m : Moment) : List TopicCall :=
  (m.shared.step m.act).client.calls.drop m.shared.client.calls.length

def Moment.subject (m : Moment) : Option Line := m.act.subject m.shared

structure History where
  past : List Moment := []
  shared : Shared

namespace History

def step (h : History) (a : Act) : History :=
  { past := h.past ++ [{ shared := h.shared, act := a }], shared := h.shared.step a }

def run (h : History) (acts : List Act) : History := acts.foldl step h

abbrev Continues (start : History) : History → Prop := EventBroker.Continues History.step start

def callsFor (h : History) (line : Line) : List TopicCall :=
  h.past.flatMap fun m => if m.subject = some line then m.called else []

/-- The books of the hooks: calls and open connections balance, every call is made by an act about
some connection, and for each connection the calls that are due have been made. -/
structure Booked (h : History) : Prop where
  hooked : h.shared.client.hooked = true
  balance : ∀ topic, h.shared.client.calls.count (.connect topic) =
    h.shared.client.calls.count (.disconnect topic) +
      (h.shared.openFor .loop topic + h.shared.openFor .reading topic)
  calls : h.shared.client.calls = h.past.flatMap (·.called)
  subject : ∀ m ∈ h.past, m.called ≠ [] → ∃ line, m.subject = some line
  due : ∀ line, h.callsFor line = due (h.shared.line? line)

theorem Booked.step {h : History} (hb : h.Booked) (a : Act) : (h.step a).Booked := by
  obtain ⟨made, hturn, hcalls, hhooked⟩ := h.shared.turns_step hb.hooked a
  have hcalled : (Moment.mk h.shared a).called = made := by
    rw [Moment.called, hcalls, List.drop_left]
  have hclient : (h.step a).shared.client.calls = h.shared.client.calls ++ made := hcalls
  refine ⟨hhooked, ?_, ?_, ?_, ?_⟩
  · intro topic
    have hbefore := hb.balance topic
    have hcount := hturn.count topic
    rw [hclient, List.count_append, List.count_append]
    rw [show (h.step a).shared = h.shared.step a from rfl]
    omega
  · rw [hclient, hb.calls, History.step, List.flatMap_append, List.flatMap_singleton, hcalled]
  · intro m hm hne
    rcases List.mem_append.mp hm with hm | hm
    · exact hb.subject m hm hne
    · obtain rfl := List.mem_singleton.mp hm
      rw [hcalled] at hne
      cases hturn with
      | kept _ => exact absurd rfl hne
      | opened _ _ hsubject _ => exact ⟨_, hsubject⟩
      | closed _ _ _ hsubject _ _ => exact ⟨_, hsubject⟩
  · intro line
    rw [callsFor, History.step, List.flatMap_append, List.flatMap_singleton, hcalled]
    exact (congrArg (· ++ _) (hb.due line)).trans (hturn.due_line? line).symm

theorem shared_run (h : History) (acts : List Act) : (h.run acts).shared = h.shared.run acts :=
  (List.foldl_hom History.shared fun _ _ => rfl).symm

theorem Continues.booked {start h : History} (hr : start.Continues h) (hb : start.Booked) :
    h.Booked := by
  induction hr with
  | refl => exact hb
  | step _ a ih => exact ih.step a

def fresh (c : Client) : History := { shared := { client := c } }

theorem booked_fresh (c : Client) (hidle : c.Idle) (hcalls : c.calls = [])
    (hhooked : c.hooked = true) : (fresh c).Booked := by
  have hnone : ∀ kind, (fresh c).shared.lines kind = [] := by
    intro kind
    cases kind with
    | loop => exact congrArg (·.map Loop.line) hidle.loops
    | reading => rfl
  refine ⟨hhooked, ?_, hcalls, fun _ hm => absurd hm List.not_mem_nil, ?_⟩
  · intro topic
    rw [openFor, openFor, hnone, hnone, show (fresh c).shared.client.calls = [] from hcalls]
    rfl
  · intro line
    rw [line?, hnone]
    rfl

theorem openFor_of_atRest (s : Shared) (hrest : s.AtRest) (topic : String) :
    s.openFor .reading topic = 0 := by
  rw [openFor, List.count_eq_zero]
  intro hmem
  obtain ⟨r, hr, hline⟩ := List.mem_map.mp hmem
  have hopen : r.reader.isSome = true := (Prod.mk.inj hline).2
  rw [hrest r hr] at hopen
  cases hopen

/-- What the hooks of a client are told, beyond its books. While no call is reading, the open
connections are those of the running loops. A request makes a connection and a call exactly if it
is answered with success. A connection ends, with a call, exactly with the step of a loop that is
cancelled, or that nothing more comes for, or that has no receiver, and with the step of a call that
nothing more comes for. A whole call that reads a stream leads to a state of these, and leaves
nothing to read once it has come back. -/
structure Balanced (start : Client) (h : History) : Prop extends Booked h where
  rest : h.shared.AtRest → ∀ topic, h.shared.client.calls.count (.connect topic) =
    h.shared.client.calls.count (.disconnect topic) + h.shared.openFor .loop topic
  ask : ∀ topic, (h.shared.step (.ask topic)).client.calls = h.shared.client.calls ++
    if h.shared.client.isAdmitted topic then [.connect (topic.getD "")] else []
  subscribe : ∀ topic channel,
    (h.shared.step (.subscribeChannel topic channel)).client.calls = h.shared.client.calls ++
      if h.shared.client.isAdmitted (some topic) then [.connect topic] else []
  loop : ∀ id l, h.shared.client.loops[id]? = some l → l.phase ≠ .ended →
    (h.shared.step (.stepLoop id)).client.calls = h.shared.client.calls ++
      if h.shared.client.leaves l then [.disconnect l.topic] else []
  read : ∀ id topic reader, h.shared.readings[id]? = some ⟨topic, some reader⟩ →
    (h.shared.step (.read id)).client.calls = h.shared.client.calls ++
      if reader.next.2.isLast then [.disconnect topic] else []
  whole : ∀ call, ∃ h', (fresh start).Continues h' ∧
    h'.shared.client = (h.shared.client.perform call).1 ∧
    ((h.shared.client.perform call).2 ≠ .waiting → h.shared.AtRest → h'.shared.AtRest)

/-- For every topic, the calls for a connection that was made exceed those for one that ended by the
number of the open ones. The calls are made for the connections one by one: one as it is made, and
one more as it ends. -/
theorem calls_balance (start : Client) (hidle : start.Idle) (hnone : start.calls = [])
    (hhooked : start.hooked = true) (h : History) (hr : (fresh start).Continues h) :
    h.Balanced start := by
  have hb := hr.booked (booked_fresh start hidle hnone hhooked)
  refine { hb with rest := ?_, ask := ?_, subscribe := ?_, loop := ?_, read := ?_, whole := ?_ }
  · intro hrest topic
    have hbalance := hb.balance topic
    rw [openFor_of_atRest h.shared hrest] at hbalance
    exact hbalance
  · exact fun topic => (h.shared.turns_ask hb.hooked topic).calls
  · exact fun topic channel => (h.shared.turns_subscribeChannel hb.hooked topic channel).calls
  · exact fun id l hl hopen => (h.shared.turns_stepLoop hb.hooked id l hl hopen).calls
  · exact fun id topic reader hr => (h.shared.turns_read hb.hooked id topic reader hr).calls
  · intro call
    obtain ⟨acts, hclient, hrest⟩ := h.shared.exists_acts_perform call
    rw [← h.shared_run acts] at hclient hrest
    exact ⟨h.run acts, hr.run acts, hclient, hrest⟩

/-- A client whose third request will be refused. -/
def sought : Client :=
  { config := {}
    url := { scheme := "http", host := some "localhost" }
    peer :=
      { script :=
          [.response { ending := .silent }, .response { chunks := [Bytes.ofString "data: a\n\n"] },
            .response { status := 404 }, .response { ending := .broken }] } }

theorem idle_sought : sought.Idle := ⟨rfl, rfl⟩

/-- The first loop runs on, the second one is left without a receiver, and the body of the one call
that is admitted breaks off. -/
def overlapping : History :=
  (fresh sought).run [.openChannel 1, .openChannel 1, .subscribeChannel "news" 0,
    .subscribeChannel "news" 1, .ask (some "news"), .ask (some "news"), .stepLoop 1,
    .closeReceiver 1, .stepLoop 1, .read 0]

theorem calls_balance_overlapping :
    sought.Idle ∧ sought.calls = [] ∧ sought.hooked = true ∧ overlapping.shared.AtRest ∧
      overlapping.shared.client.calls.count (.connect "news") =
        overlapping.shared.client.calls.count (.disconnect "news") + 1 ∧
      overlapping.callsFor ⟨.loop, 0⟩ = [.connect "news"] ∧
      overlapping.callsFor ⟨.loop, 1⟩ = [.connect "news", .disconnect "news"] ∧
      overlapping.callsFor ⟨.reading, 0⟩ = [.connect "news", .disconnect "news"] := by
  have hrest : overlapping.shared.AtRest := by
    unfold AtRest
    decide +kernel
  have hbalanced := calls_balance sought idle_sought rfl rfl overlapping (Continues.refl.run _)
  have hline : ∀ line x, overlapping.shared.line? line = x → overlapping.callsFor line = due x :=
    fun line x hx => hx ▸ hbalanced.due line
  have hopen : overlapping.shared.openFor .loop "news" = 1 := by decide +kernel
  have hcount := hbalanced.rest hrest "news"
  rw [hopen] at hcount
  exact ⟨idle_sought, rfl, rfl, hrest, hcount,
    hline ⟨.loop, 0⟩ (some ("news", true)) (by decide +kernel),
    hline ⟨.loop, 1⟩ (some ("news", false)) (by decide +kernel),
    hline ⟨.reading, 0⟩ (some ("news", false)) (by decide +kernel)⟩

end History

end Shared

end EventBroker
