import EventBroker.Proofs.Decimal
import EventBroker.Proofs.EventStream.FanOut
import EventBroker.Proofs.Replay.Window

/-!
The ids that a stream gives. An event published without an id gets the next numeral, whatever
ids the producers brought along: the k-th of these events gets the numeral of k. So a stream
never gives an id twice, and where a given id stands in the log already, a producer brought
that very id.
-/
namespace EventBroker.EventStream

/-- Only a publish moves the counter, and nothing else adds to the log. -/
theorem perform_of_not_publish (s : EventStream) (now : Nat) (op : Op)
    (hop : ∀ e, op ≠ .publish e) :
    (s.perform now op).sequence = s.sequence ∧
      (s.perform now op).replay.entries <:+ s.replay.entries := by
  cases hquiet : op.isQuiet with
  | true =>
    rw [perform_of_isQuiet s now op hquiet]
    exact ⟨rfl, List.suffix_rfl⟩
  | false =>
    cases op with
    | publish e => exact absurd rfl (hop e)
    | remove => exact ⟨rfl, List.nil_suffix⟩
    | closeIfIdle =>
      rw [perform, closeIfIdle]
      split
      · exact ⟨rfl, List.nil_suffix⟩
      · exact ⟨rfl, List.suffix_rfl⟩
    | subscribe | unsubscribe | receive | drop | advance => exact Bool.noConfusion hquiet

namespace Moment

def assigned (m : Moment) : Option Bytes :=
  match m.op with
  | .publish e => if e.id.isEmpty then m.published.map (·.id) else none
  | _ => none

theorem assigned_of_published_eq_none (m : Moment) (h : m.published = none) :
    m.assigned = none := by
  unfold assigned
  split
  · rw [h, Option.map_none, ite_self]
  · rfl

/-- An event is published under the id that the stream gives it or under its own. -/
theorem published_cases (m : Moment) (x : Event) (h : m.published = some x) :
    m.assigned = some x.id ∨ m.op = .publish x := by
  obtain ⟨s, now, op⟩ := m
  cases op with
  | publish e =>
    by_cases hid : e.id.isEmpty = true
    · left
      simp only [assigned, if_pos hid, h, Option.map_some]
    · right
      have hkept : s.removed = false := by
        cases hremoved : s.removed with
        | false => rfl
        | true => simp only [published, hremoved, if_true, reduceCtorEq] at h
      have hstamp : (s.stamp e).2 = e := by rw [stamp, if_neg hid]
      simp only [published, hkept, hstamp, Bool.false_eq_true, if_false, Option.some.injEq] at h
      rw [h]
  | subscribe | unsubscribe | receive | drop | advance | remove | closeIfIdle => cases h

end Moment

namespace History

def assigned (h : History) : List Bytes := h.past.filterMap (·.assigned)

theorem assigned_step (h : History) (op : Op) :
    (h.step op).assigned = h.assigned ++ (h.moment op).assigned.toList :=
  filterMap_concat _ h.past (h.moment op)

def numerals (n : Nat) : List Bytes := (List.range n).map fun k => Decimal.encode (k + 1)

theorem numerals_succ (n : Nat) : numerals (n + 1) = numerals n ++ [Decimal.encode (n + 1)] := by
  unfold numerals
  rw [List.range_succ, List.map_append, List.map_singleton]

theorem encode_succ_not_mem_numerals (n : Nat) : Decimal.encode (n + 1) ∉ numerals n := by
  intro hmem
  obtain ⟨k, hk, hsame⟩ := List.mem_map.mp hmem
  have heq := Decimal.encode_injective _ _ hsame
  have hlt := List.mem_range.mp hk
  omega

/-- The counter of a stream tells which ids it gave, and what its log holds was published. -/
structure Assigns (h : History) : Prop where
  given : h.assigned = numerals h.stream.sequence
  stored : ∀ x ∈ h.stream.replay.entries, ∃ m ∈ h.past, m.published = some x.event

/-- A step that publishes nothing gives no id, moves no counter and adds nothing to the log. -/
theorem Assigns.silent {h : History} (ha : h.Assigns) (op : Op)
    (hnone : (h.moment op).published = none)
    (hsequence : (h.step op).stream.sequence = h.stream.sequence)
    (hentries : (h.step op).stream.replay.entries <:+ h.stream.replay.entries) :
    (h.step op).Assigns := by
  constructor
  · rw [assigned_step, (h.moment op).assigned_of_published_eq_none hnone, hsequence,
      Option.toList_none, List.append_nil, ha.given]
  · intro x hx
    obtain ⟨m, hm, hpublished⟩ := ha.stored x (hentries.subset hx)
    exact ⟨m, List.mem_append_left _ hm, hpublished⟩

theorem Assigns.publish {h : History} (ha : h.Assigns) (e : Event)
    (hkept : h.stream.removed = false) : (h.step (.publish e)).Assigns := by
  have hpublished : (h.moment (.publish e)).published = some (h.stream.stamp e).2 := by
    simp only [Moment.published, moment, hkept, Bool.false_eq_true, if_false]
  have hafter : (h.step (.publish e)).stream = (h.stream.publish h.now e).1 := rfl
  constructor
  · rw [assigned_step, hafter, publish_fst h.stream h.now e hkept, ha.given]
    unfold Moment.assigned
    rw [hpublished]
    by_cases hid : e.id.isEmpty = true
    · have hstamp : (h.stream.stamp e).2.id = Decimal.encode (h.stream.sequence + 1) := by
        rw [stamp, if_pos hid]
      simp only [moment, if_pos hid, Option.map_some, Option.toList_some, hstamp, numerals_succ]
    · simp only [moment, if_neg hid, Option.toList_none, List.append_nil]
  · have hstored : ∀ x ∈ (h.step (.publish e)).stream.replay.entries,
        x ∈ h.stream.replay.entries ∨ x.event = (h.stream.stamp e).2 := by
      intro x hx
      rw [hafter, publish_fst h.stream h.now e hkept] at hx
      simp only at hx
      split at hx
      · cases henabled : h.stream.replay.isEnabled with
        | false =>
          rw [h.stream.replay.append_of_not_isEnabled h.now _ henabled] at hx
          exact Or.inl hx
        | true =>
          have hmem := (h.stream.replay.append_suffix h.now _ henabled).subset hx
          rcases List.mem_append.mp hmem with hold | hnew
          · exact Or.inl hold
          · rw [List.mem_singleton.mp hnew]
            exact Or.inr rfl
      · exact Or.inl hx
    intro x hx
    rcases hstored x hx with hold | hnew
    · obtain ⟨m, hm, hm'⟩ := ha.stored x hold
      exact ⟨m, List.mem_append_left _ hm, hm'⟩
    · refine ⟨h.moment (.publish e), List.mem_append_right _ (List.mem_singleton_self _), ?_⟩
      rw [hnew]
      exact hpublished

theorem Assigns.step {h : History} (ha : h.Assigns) (op : Op) : (h.step op).Assigns := by
  by_cases hop : ∃ e, op = .publish e
  · obtain ⟨e, rfl⟩ := hop
    cases hremoved : h.stream.removed with
    | false => exact ha.publish e hremoved
    | true =>
      have hsame : (h.step (.publish e)).stream = h.stream :=
        congrArg Prod.fst (publish_removed h.stream h.now e hremoved)
      have hnone : (h.moment (.publish e)).published = none := by
        simp only [Moment.published, moment, hremoved, if_true]
      refine ha.silent _ hnone ?_ ?_
      · rw [hsame]
      · rw [hsame]
  · have hnone : (h.moment op).published = none := by
      cases op with
      | publish e => exact absurd ⟨e, rfl⟩ hop
      | subscribe | unsubscribe | receive | drop | advance | remove | closeIfIdle => rfl
    obtain ⟨hsequence, hentries⟩ :=
      perform_of_not_publish h.stream h.now op fun e he => hop ⟨e, he⟩
    exact ha.silent op hnone hsequence hentries

theorem Reachable.assigns {name : String} {settings : StreamSettings} {auto : Bool} {h : History}
    (hr : h.Reachable name settings auto) : h.Assigns := by
  induction hr with
  | start now => exact ⟨rfl, fun x hx => nomatch hx⟩
  | step hr op ih => exact ih.step op

/-- An event published without an id gets the numeral that follows those given before, an id
that the stream never gave. A stored event with the same id was published under it by its
producer: every step that published such an event found it there already. -/
theorem assigned_id_fresh (name : String) (settings : StreamSettings) (auto : Bool) (h : History)
    (hr : h.Reachable name settings auto) (e : Event) (he : e.id = [])
    (hkept : h.stream.removed = false) :
    ∃ id, (h.moment (.publish e)).assigned = some id ∧
      h.assigned = numerals h.assigned.length ∧
      id = Decimal.encode (h.assigned.length + 1) ∧ id ∉ h.assigned ∧
      ∀ x ∈ h.stream.replay.entries,
        (∃ m ∈ h.past, m.published = some x.event) ∧
        (x.event.id = id → ∀ m ∈ h.past, m.published = some x.event → m.op = .publish x.event) := by
  have ha := hr.assigns
  have hcount : h.assigned.length = h.stream.sequence := by
    rw [ha.given, numerals, List.length_map, List.length_range]
  have hfresh : Decimal.encode (h.stream.sequence + 1) ∉ h.assigned := by
    rw [ha.given]
    exact encode_succ_not_mem_numerals _
  refine ⟨Decimal.encode (h.stream.sequence + 1), ?_, ?_, ?_, hfresh, ?_⟩
  · simp only [Moment.assigned, Moment.published, moment, hkept, he, stamp, List.isEmpty_nil,
      if_true, Bool.false_eq_true, if_false, Option.map_some]
  · rw [hcount, ← ha.given]
  · rw [hcount]
  · intro x hx
    refine ⟨ha.stored x hx, fun hsame m hm hpublished => ?_⟩
    rcases m.published_cases x.event hpublished with hgiven | hown
    · rw [← hsame] at hfresh
      exact absurd (List.mem_filterMap.mpr ⟨m, hm, hgiven⟩) hfresh
    · exact hown

/-- Ids that producers brought and ids that the stream gave, in turns. -/
def mixed : History :=
  ofOps {} [.publish { id := [97] }, .publish { data := [120] }, .publish { id := [51] },
    .publish { data := [121] }]

/-- The next id is `3`, and of the stored events the one with that id came with it. -/
theorem assigned_id_fresh_mixed :
    mixed.Reachable "news" {} false ∧ mixed.assigned = [[49], [50]] ∧
      mixed.stream.replay.entries.map (·.event.id) = [[97], [49], [51], [50]] ∧
      ∃ id, (mixed.moment (.publish {})).assigned = some id ∧ id = [51] ∧ id ∉ mixed.assigned ∧
        ∀ m ∈ mixed.past, m.published = some { id := [51] } → m.op = .publish { id := [51] } := by
  have hr : mixed.Reachable "news" {} false := reachable_ofOps _ _
  have hassigned : mixed.assigned = [[49], [50]] := by decide +kernel
  obtain ⟨id, hid, _, hnumeral, hfresh, hstored⟩ :=
    assigned_id_fresh "news" {} false mixed hr {} rfl (by decide +kernel)
  have hthree : id = [51] := by
    rw [hnumeral, hassigned]
    decide +kernel
  refine ⟨hr, hassigned, by decide +kernel, id, hid, hthree, hfresh, ?_⟩
  exact (hstored ⟨{ id := [51] }, 0⟩ (by decide +kernel)).2 hthree.symm

/-- It is not so that a given id stands nowhere in the log: a producer can bring the numeral whose
turn it is. -/
theorem assigned_id_stored_before :
    ¬∀ (name : String) (settings : StreamSettings) (auto : Bool) (h : History),
      h.Reachable name settings auto → ∀ (e : Event) (id : Bytes), e.id = [] →
      (h.moment (.publish e)).assigned = some id →
      ∀ x ∈ h.stream.replay.entries, x.event.id ≠ id := by
  intro hall
  exact hall "news" {} false (ofOps {} [.publish { id := [49] }]) (reachable_ofOps _ _) {} [49] rfl
    (by decide +kernel) ⟨{ id := [49] }, 0⟩ (by decide +kernel) rfl

end History

end EventBroker.EventStream
