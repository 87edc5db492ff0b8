import EventBroker.Proofs.Replay.Window
import Mathlib.Data.List.DropRight

/-!
What a log shows of everything that was stored in it. A log forgets entries only when it
stores another one, and only from the front; a snapshot passes over what has expired by
then. Both together show of the whole history what is young enough among the newest entries:
an entry is forgotten when it has expired or when enough newer ones stand behind it, and
neither changes as time goes on.
-/
namespace EventBroker.Replay

inductive Op
  | append (e : Event)
  | clear
  | advance (d : Duration)
  deriving Repr, DecidableEq

/-- A log, the time, and all events given to the log since it was last cleared. -/
structure Timeline where
  log : Replay
  now : Nat
  history : List Stored := []
  deriving Repr, DecidableEq

def newest (capacity : Option Nat) (numbered : List (Stored × Nat)) : List (Stored × Nat) :=
  match capacity with
  | none => numbered
  | some n => numbered.rtake n

/-- The part of a history that is to be seen, each event with its place in the history: of the
last `capacity` events those whose age is at most the time to live. -/
def visible (ttl : Option Duration) (capacity : Option Nat) (now : Nat) (history : List Stored) :
    List (Stored × Nat) :=
  if ttl = some .zero ∨ capacity = some 0 then []
  else
    (newest capacity history.zipIdx).filter fun (s, _) =>
      ttl.all fun d => now - s.receivedAt ≤ d.nanos

/-- The end of a history, told by the places. -/
theorem drop_zipIdx (history : List Stored) (m : Nat) :
    history.zipIdx.drop m = history.zipIdx.filter fun p => m ≤ p.2 := by
  have hfront : (history.zipIdx.take m).filter (fun p => decide (m ≤ p.2)) = [] := by
    rw [List.filter_eq_nil_iff]
    intro p hp
    obtain ⟨k, hk⟩ := List.getElem?_of_mem hp
    rw [List.getElem?_take] at hk
    split at hk
    · next hkm =>
      rw [List.getElem?_zipIdx, Option.map_eq_some_iff] at hk
      obtain ⟨s, _, rfl⟩ := hk
      simpa using hkm
    · cases hk
  have hback : (history.zipIdx.drop m).filter (fun p => decide (m ≤ p.2)) =
      history.zipIdx.drop m := by
    rw [List.filter_eq_self]
    intro p hp
    obtain ⟨k, hk⟩ := List.getElem?_of_mem hp
    rw [List.getElem?_drop, List.getElem?_zipIdx, Option.map_eq_some_iff] at hk
    obtain ⟨s, _, rfl⟩ := hk
    rw [decide_eq_true_eq]
    omega
  conv_rhs => rw [← List.take_append_drop m history.zipIdx, List.filter_append]
  rw [hfront, hback, List.nil_append]

/-- Membership in what is to be seen, decided by age and place alone. -/
theorem visible_of_enabled (ttl : Option Duration) (capacity : Option Nat) (now : Nat)
    (history : List Stored) (henabled : ¬(ttl = some .zero ∨ capacity = some 0)) :
    visible ttl capacity now history = history.zipIdx.filter fun p =>
      (ttl.all fun d => now - p.1.receivedAt ≤ d.nanos) &&
        capacity.all fun n => history.length ≤ p.2 + n := by
  rw [visible, if_neg henabled]
  cases capacity with
  | none => simp only [newest, Option.all_none, Bool.and_true]
  | some n =>
    have hplace : ∀ p : Stored × Nat,
        decide (history.length - n ≤ p.2) = decide (history.length ≤ p.2 + n) := by
      intro p
      simp only [Nat.sub_le_iff_le_add]
    simp only [newest, List.rtake, List.length_zipIdx, drop_zipIdx, List.filter_filter,
      Option.all_some, hplace]

theorem isExpired_eq (r : Replay) (now : Nat) (s : Stored) :
    (!r.isExpired now s) = r.ttl.all fun d => decide (now - s.receivedAt ≤ d.nanos) := by
  unfold isExpired
  cases r.ttl with
  | none => rfl
  | some d =>
    rw [Option.all_some, ← decide_not]
    simp only [Nat.not_lt]

/-- Time does not make an expired entry live. -/
theorem isExpired_mono (r : Replay) (now later : Nat) (hlater : now ≤ later) (s : Stored)
    (hs : r.isExpired now s = true) : r.isExpired later s = true := by
  unfold isExpired at hs ⊢
  cases httl : r.ttl with
  | none =>
    rw [httl] at hs
    cases hs
  | some d =>
    simp only [httl, decide_eq_true_eq] at hs ⊢
    omega

/-- A capacity cuts off a front, and only if it is used up. -/
theorem keepNewest_cases (capacity : Option Nat) (entries : List Stored) :
    ∃ front, entries = front ++ keepNewest capacity entries ∧
      (∀ n, capacity = some n → (keepNewest capacity entries).length ≤ n) ∧
      (front ≠ [] → capacity = some (keepNewest capacity entries).length) := by
  cases capacity with
  | none => exact ⟨[], rfl, nofun, fun h => absurd rfl h⟩
  | some n =>
    refine ⟨entries.take (entries.length - n), ?_, ?_, ?_⟩
    · exact (List.take_append_drop _ entries).symm
    · rintro m ⟨⟩
      rw [keepNewest, List.length_drop]
      omega
    · intro hfront
      have hover : entries.length - n ≠ 0 := by
        intro hzero
        rw [hzero, List.take_zero] at hfront
        exact hfront rfl
      rw [keepNewest, List.length_drop]
      congr 1
      omega

theorem append_ttl (r : Replay) (now : Nat) (e : Event) : (r.append now e).ttl = r.ttl := by
  unfold append
  split <;> rfl

theorem append_capacity (r : Replay) (now : Nat) (e : Event) :
    (r.append now e).capacity = r.capacity := by
  unfold append
  split <;> rfl

/-- What an enabled log forgets as it stores an event has expired, or gives way to the capacity. -/
theorem append_cases (r : Replay) (now : Nat) (e : Event) (henabled : r.isEnabled = true) :
    ∃ expired front,
      r.entries ++ [Stored.mk e now] = expired ++ front ++ (r.append now e).entries ∧
      (∀ s ∈ expired, r.isExpired now s = true) ∧
      (∀ n, r.capacity = some n → (r.append now e).size ≤ n) ∧
      (front ≠ [] → r.capacity = some (r.append now e).size) := by
  generalize hall : r.entries ++ [Stored.mk e now] = all
  obtain ⟨front, hfront, hsize, hfull⟩ :=
    keepNewest_cases r.capacity (all.dropWhile (r.isExpired now))
  have hentries : (r.append now e).entries =
      keepNewest r.capacity (all.dropWhile (r.isExpired now)) := by
    rw [append, if_pos henabled, hall]
    rfl
  rw [← hentries] at hfront hsize hfull
  refine ⟨all.takeWhile (r.isExpired now), front, ?_, ?_, hsize, hfull⟩
  · rw [List.append_assoc, ← hfront, List.takeWhile_append_dropWhile]
  · intro s hs
    exact List.mem_takeWhile_imp hs

/-- A snapshot after an id picks some of the live entries. -/
theorem snapshot_sublist_live (r : Replay) (now : Nat) (since : Bytes) :
    (r.snapshot now since).Sublist (r.live now) := by
  unfold snapshot
  split
  · exact List.Sublist.refl _
  · split
    · next found hfound => exact (suffix_of_behind? since _ found hfound).sublist.filter _
    · exact List.filter_sublist

namespace Timeline

def step (t : Timeline) : Op → Timeline
  | .append e => { t with log := t.log.append t.now e, history := t.history ++ [Stored.mk e t.now] }
  | .clear => { t with log := t.log.clear, history := [] }
  | .advance d => { t with now := t.now + d.nanos }

def run (ttl : Option Duration) (capacity : Option Nat) (now : Nat) (ops : List Op) : Timeline :=
  ops.foldl step { log := { ttl, capacity }, now }

/-- Whether an event may be forgotten, by its place in the history: it has expired, or the
capacity is used up by later ones. -/
def Outdated (t : Timeline) (place : Nat) (s : Stored) : Prop :=
  t.log.isExpired t.now s = true ∨
    ∃ n, t.log.capacity = some n ∧ place + n < t.history.length

/-- A log holds the end of its history, within its capacity, and what stood before that end may
be forgotten. A log that retains nothing is empty. -/
structure Keeps (t : Timeline) : Prop where
  split : ∃ lost, t.history = lost ++ t.log.entries ∧
    (t.log.isEnabled = true → ∀ k s, lost[k]? = some s → t.Outdated k s)
  size_le : ∀ n, t.log.capacity = some n → t.log.size ≤ n
  empty : t.log.isEnabled = false → t.log.entries = []

theorem Outdated.append {t : Timeline} {k : Nat} {s : Stored} (h : t.Outdated k s) (e : Event) :
    (t.step (.append e)).Outdated k s := by
  have hlog : (t.step (.append e)).log = t.log.append t.now e := rfl
  rcases h with hexpired | ⟨n, hcapacity, hlater⟩
  · refine Or.inl ?_
    rw [hlog, isExpired, append_ttl]
    exact hexpired
  · refine Or.inr ⟨n, ?_, ?_⟩
    · rw [hlog, append_capacity, hcapacity]
    · have hgrown : (t.step (.append e)).history.length = t.history.length + 1 :=
        List.length_append
      omega

/-- A log that stores an event forgets nothing but what may be forgotten. -/
theorem Keeps.append {t : Timeline} (h : t.Keeps) (e : Event) (henabled : t.log.isEnabled = true) :
    (t.step (.append e)).Keeps := by
  obtain ⟨lost, hhistory, hlost⟩ := h.split
  obtain ⟨expired, front, hentries, hexpired, hsize, hfull⟩ :=
    append_cases t.log t.now e henabled
  have hlog : (t.step (.append e)).log = t.log.append t.now e := rfl
  have hall : (t.step (.append e)).history =
      lost ++ expired ++ front ++ (t.log.append t.now e).entries := by
    have hnew : (t.step (.append e)).history = t.history ++ [Stored.mk e t.now] := rfl
    rw [hnew, hhistory, List.append_assoc, hentries]
    simp only [List.append_assoc]
  refine ⟨⟨lost ++ expired ++ front, hall, ?_⟩, ?_, ?_⟩
  · -- The place tells whether an event was lost before, expired by now, or gave way just now.
    intro _ k s hk
    rcases Nat.lt_or_ge k (lost ++ expired).length with hearly | hlate
    · rw [List.getElem?_append_left hearly] at hk
      rcases Nat.lt_or_ge k lost.length with hold | hnow
      · rw [List.getElem?_append_left hold] at hk
        exact (hlost henabled k s hk).append e
      · rw [List.getElem?_append_right hnow] at hk
        refine Or.inl ?_
        rw [hlog, isExpired, append_ttl]
        exact hexpired s (List.mem_of_getElem? hk)
    · rw [List.getElem?_append_right hlate] at hk
      have hne : front ≠ [] := by
        rintro rfl
        cases hk
      have hin := (List.getElem?_eq_some_iff.mp hk).1
      refine Or.inr ⟨(t.log.append t.now e).size, ?_, ?_⟩
      · rw [hlog, append_capacity, hfull hne]
      · rw [hall, List.length_append, List.length_append, Replay.size]
        omega
  · rw [hlog, append_capacity]
    exact hsize
  · rw [hlog, isEnabled_append, henabled]
    exact nofun

theorem Keeps.step {t : Timeline} (h : t.Keeps) (op : Op) : (t.step op).Keeps := by
  cases op with
  | append e =>
    cases henabled : t.log.isEnabled with
    | true => exact h.append e henabled
    | false =>
      have hlog : (t.step (.append e)).log = t.log :=
        append_of_not_isEnabled t.log t.now e henabled
      refine ⟨⟨(t.step (.append e)).history, ?_, ?_⟩, ?_, ?_⟩
      · rw [hlog, h.empty henabled, List.append_nil]
      · rw [hlog, henabled]
        exact nofun
      · rw [hlog]
        exact h.size_le
      · rw [hlog]
        exact h.empty
  | clear =>
    exact ⟨⟨[], rfl, fun _ _ _ hk => nomatch hk⟩, fun _ _ => Nat.zero_le _, fun _ => rfl⟩
  | advance d =>
    obtain ⟨lost, hhistory, hlost⟩ := h.split
    refine ⟨⟨lost, hhistory, ?_⟩, h.size_le, h.empty⟩
    intro henabled k s hk
    rcases hlost henabled k s hk with hexpired | hgone
    · exact Or.inl (t.log.isExpired_mono t.now _ (Nat.le_add_right _ _) s hexpired)
    · exact Or.inr hgone

theorem step_settings (t : Timeline) (op : Op) :
    (t.step op).log.ttl = t.log.ttl ∧ (t.step op).log.capacity = t.log.capacity := by
  cases op with
  | append e => exact ⟨append_ttl t.log t.now e, append_capacity t.log t.now e⟩
  | clear => exact ⟨rfl, rfl⟩
  | advance d => exact ⟨rfl, rfl⟩

/-- What holds of a log and its history, whatever was done. -/
theorem keeps_run (ttl : Option Duration) (capacity : Option Nat) (now : Nat) (ops : List Op) :
    (run ttl capacity now ops).Keeps ∧ (run ttl capacity now ops).log.ttl = ttl ∧
      (run ttl capacity now ops).log.capacity = capacity := by
  induction ops using List.reverseRecOn with
  | nil =>
    have hkeeps : Keeps { log := { ttl, capacity }, now } :=
      ⟨⟨[], rfl, fun _ _ _ hk => nomatch hk⟩, fun _ _ => Nat.zero_le _, fun _ => rfl⟩
    exact ⟨hkeeps, rfl, rfl⟩
  | append_singleton ops op ih =>
    have hstep : run ttl capacity now (ops ++ [op]) = (run ttl capacity now ops).step op := by
      rw [run, List.foldl_append]
      rfl
    obtain ⟨hkeeps, httl, hcapacity⟩ := ih
    obtain ⟨httl', hcapacity'⟩ := (run ttl capacity now ops).step_settings op
    rw [hstep]
    exact ⟨hkeeps.step op, httl'.trans httl, hcapacity'.trans hcapacity⟩

def sees (t : Timeline) (p : Stored × Nat) : Bool :=
  !t.log.isExpired t.now p.1 && t.log.capacity.all fun n => t.history.length ≤ p.2 + n

theorem Outdated.not_sees {t : Timeline} {p : Stored × Nat} (h : t.Outdated p.2 p.1) :
    t.sees p = false := by
  rcases h with hexpired | ⟨n, hcapacity, hlater⟩
  · rw [sees, hexpired, Bool.not_true, Bool.false_and]
  · rw [sees, hcapacity, Option.all_some, decide_eq_false (Nat.not_le.mpr hlater), Bool.and_false]

/-- The capacity has room for all that the log holds. -/
theorem Keeps.sees_entry {t : Timeline} (h : t.Keeps) (p : Stored × Nat)
    (hp : t.history.length ≤ p.2 + t.log.size) : t.sees p = !t.log.isExpired t.now p.1 := by
  have hroom : (t.log.capacity.all fun n => decide (t.history.length ≤ p.2 + n)) = true := by
    cases hcapacity : t.log.capacity with
    | none => rfl
    | some n =>
      have hsize := h.size_le n hcapacity
      rw [Option.all_some, decide_eq_true_eq]
      omega
  rw [sees, hroom, Bool.and_true]

/-- What is to be seen of a history is what is live in the log. -/
theorem Keeps.visible_eq {t : Timeline} (h : t.Keeps) :
    visible t.log.ttl t.log.capacity t.now t.history =
      (t.log.entries.zipIdx (t.history.length - t.log.size)).filter fun p =>
        !t.log.isExpired t.now p.1 := by
  have hdisabled : (t.log.ttl = some .zero ∨ t.log.capacity = some 0) ↔
      t.log.isEnabled = false := by
    rw [isEnabled, Bool.and_eq_false_iff, bne_eq_false_iff_eq, bne_eq_false_iff_eq]
  cases henabled : t.log.isEnabled with
  | false =>
    rw [visible, if_pos (hdisabled.mpr henabled), h.empty henabled]
    rfl
  | true =>
    obtain ⟨lost, hhistory, hlost⟩ := h.split
    have hlength : t.history.length = lost.length + t.log.size := by
      rw [hhistory, List.length_append]
      rfl
    have hplaces : t.history.zipIdx = lost.zipIdx ++ t.log.entries.zipIdx lost.length := by
      rw [hhistory, List.zipIdx_append, Nat.zero_add]
    have hgone : lost.zipIdx.filter t.sees = [] := by
      rw [List.filter_eq_nil_iff]
      intro p hp
      rw [(hlost henabled p.2 p.1 (List.mem_zipIdx_iff_getElem?.mp hp)).not_sees]
      exact Bool.false_ne_true
    have hall : visible t.log.ttl t.log.capacity t.now t.history =
        t.history.zipIdx.filter t.sees := by
      rw [visible_of_enabled _ _ _ _ fun hnone => ?_]
      · simp only [← isExpired_eq]
        rfl
      · rw [hdisabled.mp hnone] at henabled
        cases henabled
    have hstart : t.history.length - t.log.size = lost.length := by omega
    rw [hall, hplaces, List.filter_append, hgone, List.nil_append, hstart]
    apply List.filter_congr
    intro p hp
    have hin := List.le_snd_of_mem_zipIdx hp
    exact h.sees_entry p (by omega)

/-- A filter that does not look at the places. -/
theorem map_fst_filter_zipIdx (keep : Stored → Bool) (entries : List Stored) (n : Nat) :
    ((entries.zipIdx n).filter fun p => keep p.1).map Prod.fst = entries.filter keep := by
  conv_rhs => rw [← List.zipIdx_map_fst n entries, List.filter_map]
  rfl

/-- What is to be seen behind an entry of the log. -/
theorem Keeps.visible_behind {t : Timeline} (h : t.Keeps) (front rest : List Stored) (s : Stored)
    (hentries : t.log.entries = front ++ s :: rest) :
    ((visible t.log.ttl t.log.capacity t.now t.history).filter fun p =>
        t.history.length ≤ p.2 + rest.length).map Prod.fst = t.log.fresh t.now rest := by
  obtain ⟨lost, hhistory, _⟩ := h.split
  have hsize : t.log.size = (front ++ [s]).length + rest.length := by
    rw [Replay.size, hentries, ← List.singleton_append, ← List.append_assoc, List.length_append]
  have hlength : t.history.length = lost.length + t.log.size := by
    rw [hhistory, List.length_append]
    rfl
  have hstart : t.history.length - t.log.size = lost.length := by omega
  have hentries' : t.log.entries = (front ++ [s]) ++ rest := by
    rw [hentries, List.append_assoc, List.singleton_append]
  have hfront : (((front ++ [s]).zipIdx lost.length).filter fun p =>
      decide (t.history.length ≤ p.2 + rest.length)) = [] := by
    rw [List.filter_eq_nil_iff]
    intro p hp
    have hin := List.snd_lt_add_of_mem_zipIdx hp
    rw [decide_eq_true_eq]
    omega
  have hback : ((rest.zipIdx (lost.length + (front ++ [s]).length)).filter fun p =>
      decide (t.history.length ≤ p.2 + rest.length)) =
        rest.zipIdx (lost.length + (front ++ [s]).length) := by
    rw [List.filter_eq_self]
    intro p hp
    have hin := List.le_snd_of_mem_zipIdx hp
    rw [decide_eq_true_eq]
    omega
  rw [h.visible_eq, List.filter_comm, hstart, hentries', List.zipIdx_append, List.filter_append,
    hfront, hback, List.nil_append]
  exact map_fst_filter_zipIdx (fun s => !t.log.isExpired t.now s) rest _

/-- Whatever is done to a new log, at any time: a snapshot of everything is what is to be seen of
the history, the log is within its capacity and holds the end of the history, and a snapshot after
an id picks some of what is to be seen, without changing the order: if an entry of the log
carries the id, all that stands behind the first such entry. -/
theorem snapshot_eq_visible (ttl : Option Duration) (capacity : Option Nat) (start : Nat)
    (ops : List Op) (t : Timeline) (ht : t = run ttl capacity start ops) :
    t.log.snapshot t.now [] = (visible ttl capacity t.now t.history).map Prod.fst ∧
      (∀ n, capacity = some n → t.log.size ≤ n) ∧ t.log.entries <:+ t.history ∧
      ∀ id, id ≠ [] →
        (t.log.snapshot t.now id).Sublist ((visible ttl capacity t.now t.history).map Prod.fst) ∧
        ∀ front s rest, t.log.entries = front ++ s :: rest → s.event.id = id →
          (∀ x ∈ front, x.event.id ≠ id) →
          t.log.snapshot t.now id = ((visible ttl capacity t.now t.history).filter fun p =>
            t.history.length ≤ p.2 + rest.length).map Prod.fst := by
  subst ht
  obtain ⟨hkeeps, httl, hcapacity⟩ := keeps_run ttl capacity start ops
  generalize run ttl capacity start ops = t at *
  subst httl hcapacity
  have hall : (visible t.log.ttl t.log.capacity t.now t.history).map Prod.fst =
      t.log.live t.now := by
    rw [hkeeps.visible_eq]
    exact map_fst_filter_zipIdx (fun s => !t.log.isExpired t.now s) _ _
  obtain ⟨lost, hhistory, _⟩ := hkeeps.split
  refine ⟨?_, hkeeps.size_le, ⟨lost, hhistory.symm⟩, fun id hid => ⟨?_, ?_⟩⟩
  · rw [hall, snapshot, if_pos rfl]
  · rw [hall]
    exact t.log.snapshot_sublist_live t.now id
  · intro front s rest hentries hs hfirst
    rw [hkeeps.visible_behind front rest s hentries]
    exact t.log.snapshot_of_first t.now id front rest s hid hentries hs hfirst

/-- The event `a` is stored twice. The first one and `b` have left the log, which has room for
three events, and the second one has expired in it. -/
def worn : Timeline :=
  run (some (.ofMillis 1000)) (some 3) 0 [.append { id := [122] }, .clear, .append { id := [97] },
    .append { id := [98] }, .append { id := [97] }, .advance (.ofMillis 600),
    .append { id := [99] }, .append { id := [100] }, .advance (.ofMillis 600)]

/-- What is seen behind `a`: the place is that of the second one, which was the third event. -/
theorem snapshot_eq_visible_worn :
    worn.log.snapshot worn.now [97] =
        ((visible (some (.ofMillis 1000)) (some 3) worn.now worn.history).filter fun p =>
          5 ≤ p.2 + 2).map Prod.fst ∧
      (worn.log.snapshot worn.now [97]).map (·.event.id) = [[99], [100]] := by
  let c : Stored := ⟨{ id := [99] }, 600000000⟩
  let d : Stored := ⟨{ id := [100] }, 600000000⟩
  obtain ⟨_, _, _, hids⟩ := snapshot_eq_visible (some (.ofMillis 1000)) (some 3) 0
    [.append { id := [122] }, .clear, .append { id := [97] },
      .append { id := [98] }, .append { id := [97] }, .advance (.ofMillis 600),
      .append { id := [99] }, .append { id := [100] }, .advance (.ofMillis 600)] worn rfl
  have hsnapshot :=
    (hids [97] nofun).2 [] ⟨{ id := [97] }, 0⟩ [c, d] (by decide +kernel) rfl nofun
  exact ⟨hsnapshot, by decide +kernel⟩

end Timeline

end EventBroker.Replay
