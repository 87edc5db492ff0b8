import EventBroker.Proofs.Client.Loops

/-!
What stops a background loop. A loop that runs can be cancelled through the table as long
as no other loop of its channel has ended since it was started: the end of a loop takes
the entries of all loops of its channel off the table. A cancelled loop sends nothing more,
and the next time it gets to run it ends.
-/
namespace EventBroker.Client

def Halted (c : Client) (id : Nat) : Prop :=
  ∃ l, c.loops[id]? = some l ∧ (l.phase = .ended ∨ l.cancelled = true)

def Ended (c : Client) (id : Nat) : Prop :=
  ∃ l, c.loops[id]? = some l ∧ l.phase = .ended

/-- A loop that was halted stays so when any loop takes a step. -/
theorem Halted.moves {c c' : Client} {id : Nat} (h : c.Halted id) (j : Nat) (l : Loop)
    (hl : c.loops[j]? = some l) (hphase : l.phase ≠ .ended) (hmoves : c.Moves j l c') :
    c'.Halted id := by
  obtain ⟨own, hown, hhalted⟩ := h
  by_cases hj : j = id
  · subst hj
    obtain rfl : own = l := Option.some.inj (hown.symm.trans hl)
    cases hmoves with
    | ended hloops htable hqueues =>
      refine ⟨{ own with phase := .ended }, ?_, Or.inl rfl⟩
      rw [hloops, List.getElem?_modify_eq, hl]
      rfl
    | moved hrunning f hloops htable hkept =>
      rcases hhalted with hended | hcancelled
      · exact absurd hended hphase
      · cases hrunning.symm.trans hcancelled
  · cases hmoves with
    | ended hloops htable hqueues =>
      refine ⟨own, ?_, hhalted⟩
      rw [hloops, List.getElem?_modify_ne _ _ hj]
      exact hown
    | moved hrunning f hloops htable hkept =>
      refine ⟨own, ?_, hhalted⟩
      rw [hloops, List.getElem?_modify_ne _ _ hj]
      exact hown

theorem Halted.step {c : Client} {id : Nat} (h : c.Halted id) (op : Op) :
    (c.step op).Halted id := by
  cases c.touches op with
  | same hsame =>
    obtain ⟨l, hl, hhalted⟩ := h
    exact ⟨l, by rw [hsame.1]; exact hl, hhalted⟩
  | started new hloops htable =>
    obtain ⟨l, hl, hhalted⟩ := h
    refine ⟨l, ?_, hhalted⟩
    rw [hloops, List.getElem?_append_left (List.getElem?_eq_some_iff.mp hl).1]
    exact hl
  | cancelled channel hop =>
    obtain ⟨l, hl, hhalted⟩ := h
    subst hop
    refine ⟨{ l with cancelled := l.cancelled || decide ((channel, id) ∈ c.table) }, ?_, ?_⟩
    · rw [Client.step, loops_unsubscribe, hl]
      rfl
    · rcases hhalted with hended | hcancelled
      · exact Or.inl hended
      · exact Or.inr (by rw [hcancelled, Bool.true_or])
  | moves j l hop hl hphase hmoves => exact h.moves j l hl hphase hmoves

/-- A loop that is halted has ended, or its next step ends it and sends nothing. -/
theorem Halted.next {c : Client} {id : Nat} (h : c.Halted id) :
    (c.Ended id ∧ c.stepLoop id = none) ∨
      ∃ c', c.stepLoop id = some c' ∧ c.SameQueues c' ∧ c'.Ended id := by
  obtain ⟨l, hl, hhalted⟩ := h
  by_cases hphase : l.phase = .ended
  · exact Or.inl ⟨⟨l, hl, hphase⟩, c.stepLoop_of_ended id l hl hphase⟩
  · have hcancelled : l.cancelled = true := by
      rcases hhalted with hended | hcancelled
      · exact absurd hended hphase
      · exact hcancelled
    obtain ⟨c', hstep⟩ := c.exists_stepLoop_of_cancelled id l hl hcancelled hphase
    obtain ⟨l', hl', _, hmoves⟩ := c.moves_stepLoop c' id hstep
    obtain rfl : l' = l := Option.some.inj (hl'.symm.trans hl)
    right
    refine ⟨c', hstep, ?_⟩
    cases hmoves with
    | ended hloops htable hqueues =>
      refine ⟨hqueues, { l' with phase := .ended }, ?_, rfl⟩
      rw [hloops, List.getElem?_modify_eq, hl]
      rfl
    | moved hrunning f hloops htable hkept => cases hrunning.symm.trans hcancelled

/-- A loop that has ended stays so when any loop takes a step. -/
theorem Ended.moves {c c' : Client} {id : Nat} (h : c.Ended id) (j : Nat) (l : Loop)
    (hl : c.loops[j]? = some l) (hphase : l.phase ≠ .ended) (hmoves : c.Moves j l c') :
    c'.Ended id := by
  obtain ⟨own, hown, hended⟩ := h
  have hj : j ≠ id := by
    rintro rfl
    obtain rfl : own = l := Option.some.inj (hown.symm.trans hl)
    exact hphase hended
  obtain ⟨f, hloops⟩ : ∃ f, c'.loops = c.loops.modify j f := by
    cases hmoves with
    | ended hloops htable hqueues => exact ⟨_, hloops⟩
    | moved hrunning f hloops htable hkept => exact ⟨f, hloops⟩
  refine ⟨own, ?_, hended⟩
  rw [hloops, List.getElem?_modify_ne _ _ hj]
  exact hown

def turn : Client × Bool → Nat → Client × Bool := fun (c, moved) id =>
  match c.stepLoop id with
  | some c => (c, true)
  | none => (c, moved)

theorem turn_cases (state : Client × Bool) (j : Nat) :
    (state.1.stepLoop j = none ∧ (turn state j).1 = state.1) ∨
      state.1.stepLoop j = some (turn state j).1 := by
  unfold turn
  cases hstep : state.1.stepLoop j with
  | none => exact Or.inl ⟨rfl, by simp only [hstep]⟩
  | some c => exact Or.inr (by simp only [hstep])

/-- What every step of a loop keeps, its turn keeps too. -/
theorem turn_induction {P : Client → Prop}
    (hmoves : ∀ (c c' : Client) (j : Nat) (l : Loop), P c → c.loops[j]? = some l →
      l.phase ≠ .ended → c.Moves j l c' → P c')
    (state : Client × Bool) (j : Nat) (h : P state.1) : P (turn state j).1 := by
  rcases turn_cases state j with ⟨_, hsame⟩ | hstep
  · rw [hsame]
    exact h
  · obtain ⟨l, hl, hphase, hmoved⟩ := moves_stepLoop _ _ j hstep
    exact hmoves _ _ j l h hl hphase hmoved

theorem Ended.turn {state : Client × Bool} {id : Nat} (h : state.1.Ended id) (j : Nat) :
    (turn state j).1.Ended id :=
  turn_induction (P := fun c => c.Ended id)
    (fun _ _ j l h hl hphase hmoves => h.moves j l hl hphase hmoves) state j h

theorem Halted.turn {state : Client × Bool} {id : Nat} (h : state.1.Halted id) (j : Nat) :
    (turn state j).1.Halted id :=
  turn_induction (P := fun c => c.Halted id)
    (fun _ _ j l h hl hphase hmoves => h.moves j l hl hphase hmoves) state j h

/-- At its own turn a loop that is halted ends. -/
theorem Halted.turn_self {state : Client × Bool} {id : Nat} (h : state.1.Halted id) :
    (Client.turn state id).1.Ended id := by
  rcases h.next with ⟨hended, _⟩ | ⟨c', hstep, _, hended⟩
  · exact hended.turn id
  · rcases turn_cases state id with ⟨hnone, _⟩ | hstep'
    · cases hnone.symm.trans hstep
    · obtain rfl : c' = (Client.turn state id).1 := Option.some.inj (hstep.symm.trans hstep')
      exact hended

theorem Ended.foldl_turn (ids : List Nat) {state : Client × Bool} {id : Nat}
    (h : state.1.Ended id) : (ids.foldl Client.turn state).1.Ended id := by
  induction ids generalizing state with
  | nil => exact h
  | cons j ids ih => exact ih (h.turn j)

theorem Halted.foldl_turn (ids : List Nat) {state : Client × Bool} {id : Nat}
    (h : state.1.Halted id) (hid : id ∈ ids) : (ids.foldl Client.turn state).1.Ended id := by
  induction ids generalizing state with
  | nil => cases hid
  | cons j ids ih =>
    rw [List.foldl_cons]
    rcases List.mem_cons.mp hid with rfl | hid
    · exact h.turn_self.foldl_turn ids
    · exact ih (h.turn j) hid

/-- Once each loop has had its turn, a loop that was halted has ended. -/
theorem Halted.round {c : Client} {id : Nat} (h : c.Halted id) : c.round.1.Ended id := by
  have hid : id < c.loops.length := by
    obtain ⟨l, hl, _⟩ := h
    exact (List.getElem?_eq_some_iff.mp hl).1
  have hturns : ((List.range c.loops.length).foldl Client.turn (c, false)).1.Ended id :=
    Halted.foldl_turn _ h (List.mem_range.mpr hid)
  exact hturns

namespace History

theorem OtherEnded.step {h : History} {id channel : Nat} (ho : h.OtherEnded id channel)
    (op : Op) : (h.step op).OtherEnded id channel := by
  obtain ⟨m, hm, hrest⟩ := ho
  exact ⟨m, List.mem_append_left _ hm, hrest⟩

/-- A loop that is not halted can be found in the table, unless another loop of its channel has
ended since it was started. -/
inductive Stoppable (h : History) (id : Nat) (l : Loop) : Prop
  | ended (hphase : l.phase = .ended)
  | cancelled (hcancelled : l.cancelled = true)
  | listed (hmem : (l.channel, id) ∈ h.client.table)
  | missed (hother : h.OtherEnded id l.channel)

/-- An operation that leaves a loop alone matters to it only if the loop is in the table. -/
theorem Stoppable.kept {h : History} {id : Nat} {l : Loop} (hs : h.Stoppable id l) (op : Op)
    (hlisted : (l.channel, id) ∈ h.client.table → (h.step op).Stoppable id l) :
    (h.step op).Stoppable id l := by
  cases hs with
  | ended hphase => exact .ended hphase
  | cancelled hcancelled => exact .cancelled hcancelled
  | listed hmem => exact hlisted hmem
  | missed hother => exact .missed (hother.step op)

/-- The end of a loop is seen by every other loop of its channel. -/
theorem otherEnded_of_moves (h : History) (id j : Nat) (l own : Loop)
    (hown : h.client.loops[id]? = some own) (hl : h.client.loops[j]? = some l)
    (hphase : l.phase ≠ .ended) (hj : j ≠ id)
    (hloops : (h.client.step (.stepLoop j)).loops =
      h.client.loops.modify j fun l => { l with phase := .ended }) :
    (h.step (.stepLoop j)).OtherEnded id l.channel := by
  have hnew : (h.client.step (.stepLoop j)).loops[j]? = some { l with phase := .ended } := by
    rw [hloops, List.getElem?_modify_eq, hl]
    rfl
  refine ⟨{ client := h.client, op := .stepLoop j }, List.mem_append_right _ (by simp),
    (List.getElem?_eq_some_iff.mp hown).1, j, hj, ?_⟩
  simp only [Moment.ending, hl, hnew]
  exact if_pos ⟨hphase, trivial⟩

/-- What a step of a loop means for another loop, and for the loop itself. -/
theorem Stoppable.moves {h : History} {id : Nat} {l' : Loop}
    (hall : ∀ l, h.client.loops[id]? = some l → h.Stoppable id l) (j : Nat) (l : Loop)
    (hl : h.client.loops[j]? = some l) (hphase : l.phase ≠ .ended)
    (hmoves : h.client.Moves j l (h.client.step (.stepLoop j)))
    (hl' : (h.client.step (.stepLoop j)).loops[id]? = some l') :
    (h.step (.stepLoop j)).Stoppable id l' := by
  by_cases hj : j = id
  · subst hj
    cases hmoves with
    | ended hloops htable hqueues =>
      rw [hloops, List.getElem?_modify_eq, hl] at hl'
      obtain rfl := Option.some.inj hl'
      exact .ended rfl
    | moved hrunning f hloops htable hkept =>
      rw [hloops, List.getElem?_modify_eq, hl] at hl'
      obtain rfl := Option.some.inj hl'
      cases hall l hl with
      | ended hended => exact absurd hended hphase
      | cancelled hcancelled => cases hrunning.symm.trans hcancelled
      | listed hmem =>
        rw [← hkept.1, ← htable] at hmem
        exact .listed hmem
      | missed hother =>
        rw [← hkept.1] at hother
        exact .missed (hother.step _)
  · cases hmoves with
    | ended hloops htable hqueues =>
      rw [hloops, List.getElem?_modify_ne _ _ hj] at hl'
      apply (hall l' hl').kept
      intro hmem
      by_cases hchannel : l'.channel = l.channel
      · apply Stoppable.missed
        rw [hchannel]
        exact h.otherEnded_of_moves id j l l' hl' hl hphase hj hloops
      · apply Stoppable.listed
        rw [show (h.step (.stepLoop j)).client.table = _ from htable]
        exact List.mem_filter.mpr ⟨hmem, bne_iff_ne.mpr hchannel⟩
    | moved hrunning f hloops htable hkept =>
      rw [hloops, List.getElem?_modify_ne _ _ hj] at hl'
      apply (hall l' hl').kept
      intro hmem
      rw [← htable] at hmem
      exact .listed hmem

theorem Stoppable.step {h : History} {id : Nat} {l' : Loop}
    (hall : ∀ l, h.client.loops[id]? = some l → h.Stoppable id l) (op : Op)
    (hl' : (h.client.step op).loops[id]? = some l') : (h.step op).Stoppable id l' := by
  have hclient : (h.step op).client = h.client.step op := rfl
  cases h.client.touches op with
  | same hsame =>
    rw [hsame.1] at hl'
    apply (hall l' hl').kept
    intro hmem
    rw [← hsame.2] at hmem
    exact .listed hmem
  | started new hloops htable =>
    rw [hloops] at hl'
    by_cases hid : id < h.client.loops.length
    · rw [List.getElem?_append_left hid] at hl'
      apply (hall l' hl').kept
      intro hmem
      apply Stoppable.listed
      rw [hclient, htable]
      exact List.mem_append_left _ hmem
    · have hlength := (List.getElem?_eq_some_iff.mp hl').1
      rw [List.length_append, List.length_singleton] at hlength
      obtain rfl : id = h.client.loops.length := by omega
      rw [List.getElem?_concat_length, Option.some.injEq] at hl'
      apply Stoppable.listed
      rw [hclient, htable, hl']
      exact List.mem_append_right _ (List.mem_singleton.mpr rfl)
  | cancelled channel hop =>
    subst hop
    rw [Client.step, loops_unsubscribe, Option.map_eq_some_iff] at hl'
    obtain ⟨l, hl, rfl⟩ := hl'
    cases hall l hl with
    | ended hphase => exact .ended hphase
    | cancelled hcancelled =>
      apply Stoppable.cancelled
      rw [hcancelled, Bool.true_or]
    | listed hmem =>
      by_cases hchannel : l.channel = channel
      · rw [hchannel] at hmem
        apply Stoppable.cancelled
        rw [decide_eq_true hmem, Bool.or_true]
      · apply Stoppable.listed
        rw [hclient, Client.step, table_unsubscribe]
        exact List.mem_filter.mpr ⟨hmem, bne_iff_ne.mpr hchannel⟩
    | missed hother => exact .missed (hother.step _)
  | moves j l hop hl hphase hmoves =>
    subst hop
    exact Stoppable.moves hall j l hl hphase hmoves hl'

/-- Every loop that a client ever started. -/
theorem Continues.stoppable {start : Client} (hidle : start.Idle) {h : History}
    (hr : ({ client := start } : History).Continues h) (id : Nat) (l : Loop)
    (hl : h.client.loops[id]? = some l) : h.Stoppable id l := by
  induction hr generalizing l with
  | refl =>
    rw [show start.loops = [] from hidle.loops] at hl
    cases hl
  | step hr op ih => exact Stoppable.step ih op hl

theorem Continues.halted {start h : History} (hr : start.Continues h) (id : Nat)
    (hhalted : start.client.Halted id) : h.client.Halted id := by
  induction hr with
  | refl => exact hhalted
  | step hr op ih => exact ih.step op

/-- A loop was started on a channel, and no other loop of the channel has ended since. Once the
channel is unsubscribed, whatever is done then, the loop has ended or its next step ends it
without sending anything, and it has ended when each loop has had its turn. -/
theorem unsubscribe_halts (start : Client) (hidle : start.Idle) (h : History)
    (hr : ({ client := start } : History).Continues h) (id : Nat) (l : Loop)
    (hl : h.client.loops[id]? = some l) (halone : ¬h.OtherEnded id l.channel) (h' : History)
    (hcontinues : (h.step (.unsubscribe l.channel)).Continues h') :
    ((h'.client.Ended id ∧ h'.client.stepLoop id = none) ∨
        ∃ c', h'.client.stepLoop id = some c' ∧ h'.client.SameQueues c' ∧ c'.Ended id) ∧
      h'.client.round.1.Ended id := by
  have hhalted : (h.client.unsubscribe l.channel).Halted id := by
    refine ⟨_, (h.client.loops_unsubscribe l.channel id).trans (congrArg _ hl), ?_⟩
    cases hr.stoppable hidle id l hl with
    | ended hphase => exact Or.inl hphase
    | cancelled hcancelled => exact Or.inr (by simp only [hcancelled, Bool.true_or])
    | listed hmem => exact Or.inr (by simp only [hmem, decide_true, Bool.or_true])
    | missed hother => exact absurd hother halone
  have hlater := hcontinues.halted id hhalted
  exact ⟨hlater.next, hlater.round⟩

/-- A client that will be given an empty body and then the event `a`. -/
def served : Client :=
  { config := {}
    url := { scheme := "http", host := some "localhost" }
    peer := { script := [.response {}, .response { chunks := [Bytes.ofString "data: a\n\n"] }] } }

theorem idle_served : served.Idle := ⟨rfl, rfl⟩

/-- Two loops, each of a channel of its own, of which the second one is about to send. -/
def apart : History :=
  ({ client := served } : History).run [.openChannel 1, .openChannel 1,
    .subscribeChannel "one" 0, .subscribeChannel "two" 1, .stepLoop 0, .stepLoop 1, .stepLoop 1]

theorem unsubscribe_halts_apart :
    served.Idle ∧ ¬apart.OtherEnded 1 1 ∧
      ∃ l, apart.client.loops[1]? = some l ∧ l.phase = .reserved { data := [97] } ∧
        (apart.step (.unsubscribe 1)).client.round.1.Ended 1 := by
  let l : Loop :=
    { topic := "two", channel := 1, reader := { decoder := .new 1048576 false },
      phase := .reserved { data := [97] } }
  have hl : apart.client.loops[1]? = some l := by decide +kernel
  have hpast : ∀ m ∈ apart.past, m.ending = none ∨ m.ending = some (0, 0) := by decide +kernel
  have halone : ¬apart.OtherEnded 1 1 := by
    rintro ⟨m, hm, _, other, _, hending⟩
    rcases hpast m hm with hnone | hzero
    · cases hnone.symm.trans hending
    · cases hzero.symm.trans hending
  have hhalts := unsubscribe_halts served idle_served apart (Continues.refl.run _) 1 l hl halone
    (apart.step (.unsubscribe 1)) .refl
  exact ⟨idle_served, halone, l, hl, rfl, hhalts.2⟩

/-- The loops `one` and `two` are of the same channel. The end of `one` takes `two` off the
table, so that it goes on when the channel is unsubscribed. -/
def together : History :=
  ({ client := served } : History).run [.openChannel 1, .subscribeChannel "one" 0,
    .subscribeChannel "two" 0, .stepLoop 0]

theorem unsubscribe_misses :
    ¬∀ (start : Client) (h h' : History) (id : Nat) (l : Loop) (c' : Client), start.Idle →
      ({ client := start } : History).Continues h → h.client.loops[id]? = some l →
      (h.step (.unsubscribe l.channel)).Continues h' → h'.client.stepLoop id = some c' →
      h'.client.SameQueues c' := by
  intro hall
  let l : Loop :=
    { topic := "two", channel := 0
      reader := { decoder := .new 1048576 false, chunks := [Bytes.ofString "data: a\n\n"] } }
  let h' := (together.step (.unsubscribe 0)).run [.stepLoop 1, .stepLoop 1]
  have hstep : h'.client.stepLoop 1 = some (h'.client.step (.stepLoop 1)) := by
    have hsome : (h'.client.stepLoop 1).isSome = true := by decide +kernel
    rw [Client.step]
    exact (Option.some_get hsome).symm.trans (congrArg some (Option.get_eq_getD _))
  have hsame := hall served together h' 1 l _ idle_served (Continues.refl.run _)
    (by decide +kernel) (Continues.refl.run _) hstep 0
  have hbefore : (h'.client.channels[0]?).map (·.queue) = some [] := by decide +kernel
  have hafter : ((h'.client.step (.stepLoop 1)).channels[0]?).map (·.queue) =
      some [{ data := [97] }] := by decide +kernel
  cases hafter.symm.trans (hsame.trans hbefore)

end History

end EventBroker.Client
