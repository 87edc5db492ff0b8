import EventBroker.Client.Loops
import EventBroker.Proofs.Run

/-!
Runs of a client with background loops. A history is the list of what was done with the
client, each with the client it found, and the client that it leads to. Any single thing
that is done adds a loop, cancels the loops of a channel, moves one loop on or ends it, or
leaves the loops and the table alone.
-/
namespace EventBroker.Client

inductive Op
  | openChannel (capacity : Nat)
  | closeReceiver (channel : Nat)
  | receive (channel : Nat)
  | subscribeChannel (topic : String) (channel : Nat)
  | unsubscribe (channel : Nat)
  | stepLoop (id : Nat)
  | subscribe (topic : String)
  | setLastEventId (id : Bytes)
  deriving Repr, DecidableEq

def step (c : Client) : Op → Client
  | .openChannel capacity => (c.openChannel capacity).1
  | .closeReceiver channel => c.closeReceiver channel
  | .receive channel => ((c.receive? channel).map (·.1)).getD c
  | .subscribeChannel topic channel => (c.subscribeChannel topic channel).1
  | .unsubscribe channel => c.unsubscribe channel
  | .stepLoop id => (c.stepLoop id).getD c
  | .subscribe topic => (c.subscribe topic).1
  | .setLastEventId id => c.setLastEventId id

structure Moment where
  client : Client
  op : Op

/-- The channel and the number of the loop that an operation ends. -/
def Moment.ending (m : Moment) : Option (Nat × Nat) :=
  match m.op with
  | .stepLoop id =>
    match m.client.loops[id]?, (m.client.step m.op).loops[id]? with
    | some old, some new =>
      if old.phase ≠ .ended ∧ new.phase = .ended then some (old.channel, id) else none
    | _, _ => none
  | _ => none

/-- What was done with a client, the latest last, and where that leads. -/
structure History where
  past : List Moment := []
  client : Client

namespace History

def step (h : History) (op : Op) : History :=
  { past := h.past ++ [{ client := h.client, op }], client := h.client.step op }

def run (h : History) (ops : List Op) : History := ops.foldl step h

abbrev Continues (start : History) : History → Prop := EventBroker.Continues History.step start

/-- Whether, since a loop was started, another loop of its channel has ended. -/
def OtherEnded (h : History) (id channel : Nat) : Prop :=
  ∃ m ∈ h.past, id < m.client.loops.length ∧ ∃ other, other ≠ id ∧
    m.ending = some (channel, other)

end History

structure Idle (c : Client) : Prop where
  loops : c.loops = []
  table : c.table = []

theorem idle_new (config : ClientConfig) (c : Client) (hnew : new config = .ok c) : c.Idle := by
  unfold new at hnew
  cases hcheck : config.check with
  | error fault =>
    rw [hcheck] at hnew
    cases hnew
  | ok _ =>
    rw [hcheck] at hnew
    cases hurl : Url.parse (completeUrl config.url) with
    | error fault =>
      simp only [hurl] at hnew
      cases hnew
    | ok url =>
      simp only [hurl] at hnew
      cases hnew
      exact ⟨rfl, rfl⟩

def SameLoops (c c' : Client) : Prop := c'.loops = c.loops ∧ c'.table = c.table

theorem sameLoops_call (c : Client) (t : TopicCall) : c.SameLoops (c.call t) := by
  unfold call
  split <;> exact ⟨rfl, rfl⟩

theorem sameLoops_noteRetry (c : Client) (e : Event) : c.SameLoops (c.noteRetry e) := by
  unfold noteRetry
  split <;> exact ⟨rfl, rfl⟩

theorem sameLoops_noteDelivered (c : Client) (id : Bytes) : c.SameLoops (c.noteDelivered id) := by
  unfold noteDelivered
  split <;> exact ⟨rfl, rfl⟩

theorem SameLoops.trans {c c' c'' : Client} (h : c.SameLoops c') (h' : c'.SameLoops c'') :
    c.SameLoops c'' :=
  ⟨h'.1.trans h.1, h'.2.trans h.2⟩

theorem sameLoops_connect (c : Client) (topic : Option String) :
    c.SameLoops (c.connect topic).1 := by
  unfold connect
  split
  · exact ⟨rfl, rfl⟩
  · simp only
    split
    · exact sameLoops_call _ _
    · exact ⟨rfl, rfl⟩

theorem sameLoops_handle (state : Client × List Event) (e : Event) :
    state.1.SameLoops (handle state e).1 := by
  unfold handle
  simp only
  split
  · exact (sameLoops_noteRetry _ e).trans (sameLoops_noteDelivered _ e.id)
  · exact sameLoops_noteRetry _ e

theorem sameLoops_foldl_handle (events : List Event) (state : Client × List Event) :
    state.1.SameLoops (events.foldl handle state).1 := by
  induction events generalizing state with
  | nil => exact ⟨rfl, rfl⟩
  | cons e events ih => exact (sameLoops_handle state e).trans (ih (handle state e))

theorem sameLoops_readChunks (ending : Ending) (d : Frame.Decoder) (state : Client × List Event)
    (chunks : List Bytes) : state.1.SameLoops (readChunks ending d state chunks).1.1 := by
  induction chunks generalizing d state with
  | nil =>
    cases ending <;> exact ⟨rfl, rfl⟩
  | cons chunk rest ih =>
    unfold readChunks
    split
    · exact ⟨rfl, rfl⟩
    · next d' events _ =>
      exact (sameLoops_foldl_handle events state).trans (ih d' (events.foldl handle state))

theorem sameLoops_subscribe (c : Client) (topic : String) : c.SameLoops (c.subscribe topic).1 := by
  have hconnect := c.sameLoops_connect (some topic)
  unfold subscribe readStream
  cases hresult : c.connect (some topic) with
  | mk c' result =>
    rw [hresult] at hconnect
    cases result with
    | error fault => exact hconnect
    | ok reader =>
      have hread := sameLoops_readChunks reader.ending reader.decoder (c', []) reader.chunks
      simp only
      cases hchunks : readChunks reader.ending reader.decoder (c', []) reader.chunks with
      | mk state outcome =>
        rw [hchunks] at hread
        obtain ⟨c'', events⟩ := state
        cases outcome with
        | waiting => exact hconnect.trans hread
        | ended => exact (hconnect.trans hread).trans (sameLoops_call c'' _)
        | failed fault => exact (hconnect.trans hread).trans (sameLoops_call c'' _)

def SameQueues (c c' : Client) : Prop :=
  ∀ k : Nat, (c'.channels[k]?).map (·.queue) = (c.channels[k]?).map (·.queue)

theorem sameQueues_release (c : Client) (channel : Nat) :
    c.SameQueues (c.setChannel channel .release) := by
  intro k
  unfold setChannel
  by_cases hk : channel = k
  · rw [hk, List.getElem?_modify_eq]
    cases c.channels[k]? <;> rfl
  · rw [List.getElem?_modify_ne _ _ hk]

theorem call_eq (c : Client) (t : TopicCall) : c.call t = { c with calls := (c.call t).calls } := by
  unfold call
  split <;> rfl

theorem endLoop_eq (c : Client) (id : Nat) (l : Loop) :
    c.endLoop id l =
      { c with
        loops := c.loops.modify id fun l => { l with phase := .ended }
        table := c.table.filter (·.1 != l.channel)
        calls := (c.endLoop id l).calls } :=
  call_eq _ (.disconnect l.topic)

/-- What one step of a loop comes to. A loop that ends takes all entries of its channel off the
table; any other step is taken by a loop that is not cancelled. -/
inductive Moves (c : Client) (id : Nat) (l : Loop) (c' : Client) : Prop
  | ended (hloops : c'.loops = c.loops.modify id fun l => { l with phase := .ended })
      (htable : c'.table = c.table.filter (·.1 != l.channel)) (hqueues : c.SameQueues c')
  | moved (hrunning : l.cancelled = false) (f : Loop → Loop)
      (hloops : c'.loops = c.loops.modify id f) (htable : c'.table = c.table)
      (hkept : (f l).channel = l.channel ∧ (f l).cancelled = false)

theorem moves_endLoop (c c₀ : Client) (id : Nat) (l : Loop) (hsame : c.SameLoops c₀)
    (hqueues : c.SameQueues c₀) : c.Moves id l (c₀.endLoop id l) := by
  apply Moves.ended
  · rw [endLoop_eq, hsame.1]
  · rw [endLoop_eq, hsame.2]
  · rw [endLoop_eq]
    exact hqueues

theorem moves_setLoop (c c₀ : Client) (id : Nat) (l : Loop) (f : Loop → Loop)
    (hrunning : l.cancelled = false) (hsame : c.SameLoops c₀)
    (hkept : (f l).channel = l.channel ∧ (f l).cancelled = l.cancelled) :
    c.Moves id l (c₀.setLoop id f) := by
  apply Moves.moved hrunning f
  · rw [setLoop, hsame.1]
  · exact hsame.2
  · rw [hrunning] at hkept
    exact hkept

theorem moves_stepLoop (c c' : Client) (id : Nat) (hstep : c.stepLoop id = some c') :
    ∃ l, c.loops[id]? = some l ∧ l.phase ≠ .ended ∧ c.Moves id l c' := by
  unfold stepLoop at hstep
  cases hl : c.loops[id]? with
  | none =>
    rw [hl] at hstep
    cases hstep
  | some l =>
    rw [hl] at hstep
    have hend : c.Moves id l (c.endLoop id l) :=
      moves_endLoop c c id l ⟨rfl, rfl⟩ fun _ => rfl
    refine ⟨l, rfl, ?_⟩
    cases hphase : l.phase with
    | ended =>
      simp only [hphase] at hstep
      cases hstep
    | reading =>
      refine ⟨nofun, ?_⟩
      simp only [hphase] at hstep
      split at hstep
      · obtain rfl := Option.some.inj hstep
        exact hend
      · next hrunning =>
        split at hstep
        · cases hstep
        · obtain rfl := Option.some.inj hstep
          exact hend
        · obtain rfl := Option.some.inj hstep
          exact hend
        · obtain rfl := Option.some.inj hstep
          exact moves_setLoop c _ id l _ (Bool.eq_false_iff.mpr hrunning)
            (c.sameLoops_noteRetry _) ⟨rfl, rfl⟩
    | holding e =>
      refine ⟨nofun, ?_⟩
      simp only [hphase] at hstep
      split at hstep
      · obtain rfl := Option.some.inj hstep
        exact hend
      · next hrunning =>
        split at hstep
        · obtain rfl := Option.some.inj hstep
          exact hend
        · split at hstep
          · obtain rfl := Option.some.inj hstep
            exact hend
          · split at hstep
            · obtain rfl := Option.some.inj hstep
              exact moves_setLoop c _ id l _ (Bool.eq_false_iff.mpr hrunning) ⟨rfl, rfl⟩
                ⟨rfl, rfl⟩
            · cases hstep
    | reserved e =>
      refine ⟨nofun, ?_⟩
      simp only [hphase] at hstep
      split at hstep
      · obtain rfl := Option.some.inj hstep
        exact moves_endLoop c _ id l ⟨rfl, rfl⟩ (c.sameQueues_release l.channel)
      · next hrunning =>
        obtain rfl := Option.some.inj hstep
        exact moves_setLoop c _ id l _ (Bool.eq_false_iff.mpr hrunning)
          (sameLoops_noteDelivered _ e.id) ⟨rfl, rfl⟩

/-- A loop that is cancelled never has to wait. -/
theorem exists_stepLoop_of_cancelled (c : Client) (id : Nat) (l : Loop)
    (hl : c.loops[id]? = some l) (hcancelled : l.cancelled = true) (hphase : l.phase ≠ .ended) :
    ∃ c', c.stepLoop id = some c' := by
  unfold stepLoop
  rw [hl]
  cases h : l.phase with
  | ended => exact absurd h hphase
  | reading | holding e | reserved e => simp only [h, hcancelled, if_true, Option.some.injEq,
      exists_eq']

theorem stepLoop_of_ended (c : Client) (id : Nat) (l : Loop) (hl : c.loops[id]? = some l)
    (hphase : l.phase = .ended) : c.stepLoop id = none := by
  simp only [stepLoop, hl, hphase]

def cancelEntry (c : Client) (entry : Nat × Nat) : Client :=
  c.setLoop entry.2 fun l => { l with cancelled := true }

theorem loops_cancelEntry (c : Client) (entry : Nat × Nat) (id : Nat) :
    (c.cancelEntry entry).loops[id]? =
      (c.loops[id]?).map fun l =>
        { l with cancelled := l.cancelled || decide (id = entry.2) } := by
  unfold cancelEntry setLoop
  by_cases hid : entry.2 = id
  · rw [hid, List.getElem?_modify_eq]
    cases c.loops[id]? <;> simp
  · rw [List.getElem?_modify_ne _ _ hid]
    cases c.loops[id]? <;> simp [Ne.symm hid]

theorem loops_foldl_cancelEntry (entries : List (Nat × Nat)) (c : Client) (id : Nat) :
    (entries.foldl cancelEntry c).loops[id]? =
      (c.loops[id]?).map fun l =>
        { l with cancelled := l.cancelled || decide (id ∈ entries.map (·.2)) } := by
  induction entries generalizing c with
  | nil =>
    rw [List.foldl_nil]
    cases hl : c.loops[id]? with
    | none => rfl
    | some l => simp only [List.map_nil, List.not_mem_nil, decide_false, Bool.or_false,
        Option.map_some]
  | cons entry entries ih =>
    rw [List.foldl_cons, ih, loops_cancelEntry]
    cases c.loops[id]? with
    | none => rfl
    | some l => simp only [Option.map_some, List.map_cons, List.mem_cons, Bool.decide_or,
        Bool.or_assoc]

theorem table_unsubscribe (c : Client) (channel : Nat) :
    (c.unsubscribe channel).table = c.table.filter (·.1 != channel) := by
  have htable : ∀ (entries : List (Nat × Nat)) (c : Client),
      (entries.foldl cancelEntry c).table = c.table := by
    intro entries
    induction entries with
    | nil => exact fun _ => rfl
    | cons entry entries ih => exact fun c => ih (c.cancelEntry entry)
  exact congrArg (·.filter (·.1 != channel)) (htable _ c)

/-- The loops that the table names for a channel are cancelled, and the others stay as they are. -/
theorem loops_unsubscribe (c : Client) (channel id : Nat) :
    (c.unsubscribe channel).loops[id]? =
      (c.loops[id]?).map fun l =>
        { l with cancelled := l.cancelled || decide ((channel, id) ∈ c.table) } := by
  have hmem : id ∈ (c.table.filter (·.1 == channel)).map (·.2) ↔ (channel, id) ∈ c.table := by
    simp
  have hloops := loops_foldl_cancelEntry (c.table.filter (·.1 == channel)) c id
  rw [decide_eq_decide.mpr hmem] at hloops
  exact hloops

theorem subscribeChannel_cases (c : Client) (topic : String) (channel : Nat) :
    c.SameLoops (c.subscribeChannel topic channel).1 ∨
      ∃ new : Loop, new.channel = channel ∧
        (c.subscribeChannel topic channel).1.loops = c.loops ++ [new] ∧
        (c.subscribeChannel topic channel).1.table = c.table ++ [(channel, c.loops.length)] := by
  have hconnect := c.sameLoops_connect (some topic)
  unfold subscribeChannel
  cases hresult : c.connect (some topic) with
  | mk c' result =>
    rw [hresult] at hconnect
    cases result with
    | error fault => exact Or.inl hconnect
    | ok reader =>
      refine Or.inr ⟨{ topic, channel, reader }, rfl, ?_, ?_⟩
      · exact congrArg (· ++ _) hconnect.1
      · simp only
        rw [hconnect.1, hconnect.2]

inductive Touches (c : Client) (op : Op) : Prop
  | same (hsame : c.SameLoops (c.step op))
  | started (new : Loop) (hloops : (c.step op).loops = c.loops ++ [new])
      (htable : (c.step op).table = c.table ++ [(new.channel, c.loops.length)])
  | cancelled (channel : Nat) (hop : op = .unsubscribe channel)
  | moves (id : Nat) (l : Loop) (hop : op = .stepLoop id) (hl : c.loops[id]? = some l)
      (hphase : l.phase ≠ .ended) (hmoves : c.Moves id l (c.step op))

theorem touches (c : Client) (op : Op) : c.Touches op := by
  cases op with
  | openChannel | closeReceiver | setLastEventId => exact .same ⟨rfl, rfl⟩
  | receive channel =>
    apply Touches.same
    simp only [step, receive?]
    split <;> exact ⟨rfl, rfl⟩
  | subscribeChannel topic channel =>
    rcases c.subscribeChannel_cases topic channel with hsame | ⟨new, rfl, hloops, htable⟩
    · exact .same hsame
    · exact .started new hloops htable
  | unsubscribe channel => exact .cancelled channel rfl
  | stepLoop id =>
    cases hstep : c.stepLoop id with
    | none =>
      apply Touches.same
      rw [step, hstep]
      exact ⟨rfl, rfl⟩
    | some c' =>
      obtain ⟨l, hl, hphase, hmoves⟩ := c.moves_stepLoop c' id hstep
      refine .moves id l rfl hl hphase ?_
      rw [step, hstep]
      exact hmoves
  | subscribe topic => exact .same (c.sameLoops_subscribe topic)

end EventBroker.Client
