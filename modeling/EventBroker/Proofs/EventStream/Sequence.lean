import EventBroker.Proofs.Decimal
import EventBroker.Proofs.EventStream.FanOut
import EventBroker.Proofs.Replay.Window

/-!
Resumption by number. Where the ids of a log are numbers that grow, an id that is a number
marks one place in it, whether an entry with this id is there or not: what stands behind
the entry with the id, and what has a greater number, is the same. A stream that gives
all its events their ids keeps such a log, whatever its log forgets.
-/
namespace EventBroker

namespace Replay

def number? (s : Stored) : Option Nat := Decimal.word s.event.id

def Ascending (entries : List Stored) : Prop :=
  ∃ numbers : List Nat, entries.map number? = numbers.map some ∧ numbers.Pairwise (· < ·)

def isAfter (k : Nat) (s : Stored) : Bool := (number? s).any fun n => k < n

theorem exists_of_behind? (id : Bytes) (entries found : List Stored)
    (hfound : behind? id entries = some found) : ∃ s ∈ entries, s.event.id = id := by
  by_contra hnone
  have hentries : ∀ s ∈ entries, s.event.id ≠ id := fun s hs heq => hnone ⟨s, hs, heq⟩
  cases (behind?_eq_none id entries hentries).symm.trans hfound

theorem exists_number_of_mem (entries : List Stored) (numbers : List Nat)
    (hnumbers : entries.map number? = numbers.map some) (s : Stored) (hs : s ∈ entries) :
    ∃ n ∈ numbers, number? s = some n := by
  have hmem : number? s ∈ numbers.map some := hnumbers ▸ List.mem_map_of_mem hs
  obtain ⟨n, hn, heq⟩ := List.mem_map.mp hmem
  exact ⟨n, hn, heq.symm⟩

/-- What stands behind the entry that carries a number is what has a greater one. -/
theorem behind?_eq_filter (since : Bytes) (k : Nat) (hk : Decimal.word since = some k)
    (entries : List Stored) (hascending : Ascending entries) (found : List Stored)
    (hfound : behind? since entries = some found) : found = entries.filter (isAfter k) := by
  induction entries with
  | nil => cases hfound
  | cons first rest ih =>
    obtain ⟨numbers, hnumbers, hgrow⟩ := hascending
    rw [List.map_cons, eq_comm, List.map_eq_cons_iff] at hnumbers
    obtain ⟨n, later, rfl, hn, hlater⟩ := hnumbers
    obtain ⟨hleast, hgrow⟩ := List.pairwise_cons.mp hgrow
    have hfirst : isAfter k first = decide (k < n) := by rw [isAfter, ← hn, Option.any_some]
    rw [behind?] at hfound
    split at hfound
    · next hid =>
      obtain rfl := Option.some.inj hfound
      have hnk : n = k := by
        rw [number?, hid, hk] at hn
        exact Option.some.inj hn
      have hall : ∀ s ∈ rest, isAfter k s = true := by
        intro s hs
        obtain ⟨m, hm, hnumber⟩ := exists_number_of_mem rest later hlater.symm s hs
        rw [isAfter, hnumber, Option.any_some, decide_eq_true_eq, ← hnk]
        exact hleast m hm
      rw [List.filter_cons_of_neg (by rw [hfirst, hnk]; simp), List.filter_eq_self.mpr hall]
    · obtain ⟨s, hs, hid⟩ := exists_of_behind? since rest found hfound
      obtain ⟨m, hm, hnumber⟩ := exists_number_of_mem rest later hlater.symm s hs
      have hmk : m = k := by
        rw [number?, hid, hk] at hnumber
        exact (Option.some.inj hnumber).symm
      have hlt : n < k := hmk ▸ hleast m hm
      rw [List.filter_cons_of_neg (by rw [hfirst]; simp; omega)]
      exact ih ⟨later, hlater.symm, hgrow⟩ hfound

theorem idAfter_eq_isAfter (since : Bytes) (k : Nat) (hk : Decimal.word since = some k)
    (s : Stored) (n : Nat) (hn : number? s = some n) :
    idAfter s.event.id since = isAfter k s := by
  have hword : Decimal.word s.event.id = some n := hn
  simp only [idAfter, isAfter, hn, hword, hk, Option.any_some]

/-- Either way of taking a snapshot gives the live entries with a greater number. -/
theorem snapshot_eq_filter (r : Replay) (hascending : Ascending r.entries) (now : Nat)
    (since : Bytes) (k : Nat) (hk : Decimal.word since = some k) :
    r.snapshot now since = (r.live now).filter (isAfter k) := by
  have hsince : since ≠ [] := by
    rintro rfl
    cases hk
  rw [snapshot, if_neg hsince]
  cases hfound : behind? since r.entries with
  | some found =>
    simp only
    rw [behind?_eq_filter since k hk r.entries hascending found hfound, live]
    exact List.filter_comm _ _ r.entries
  | none =>
    apply List.filter_congr
    intro s hs
    obtain ⟨numbers, hnumbers, _⟩ := hascending
    obtain ⟨n, _, hn⟩ :=
      exists_number_of_mem r.entries numbers hnumbers s (List.mem_of_mem_filter hs)
    exact idAfter_eq_isAfter since k hk s n hn

end Replay

namespace Decimal

/-- A numeral is read as a word as long as its number fits. -/
theorem word_encode (n : Nat) : word (encode n) = belowWordLimit n := by
  have hplain : word (encode n) = (natural (encode n)).bind belowWordLimit := by
    cases hdigits : encode n with
    | nil => exact absurd hdigits (encode_ne_nil n)
    | cons b digits =>
      have hb : Bytes.isDigit b = true :=
        isDigit_of_mem_encode n b (by rw [hdigits]; exact List.mem_cons_self)
      have hplus : b ≠ 43 := by
        rintro rfl
        exact absurd hb (by decide)
      unfold word
      split
      · next heq => exact absurd (List.cons.inj heq).1 hplus
      · rfl
  rw [hplain, natural_encode, Option.bind_some]

end Decimal

namespace EventStream

open Replay (Ascending number?)

def Op.leavesId : Op → Bool
  | .publish e => e.id.isEmpty
  | .subscribe _ | .unsubscribe _ | .receive _ | .drop _ | .advance _ => true
  | .remove | .closeIfIdle => true

/-- The ids of the log are numerals of growing numbers, none above the counter of the stream. -/
def Counts (s : EventStream) : Prop :=
  ∃ numbers : List Nat, s.replay.entries.map (·.event.id) = numbers.map Decimal.encode ∧
    numbers.Pairwise (· < ·) ∧ ∀ n ∈ numbers, n ≤ s.sequence

theorem Counts.of_suffix {s s' : EventStream} (hs : s.Counts)
    (hsuffix : s'.replay.entries <:+ s.replay.entries) (hsequence : s.sequence ≤ s'.sequence) :
    s'.Counts := by
  obtain ⟨numbers, hids, hgrow, hmost⟩ := hs
  have hdrop := List.suffix_iff_eq_drop.mp hsuffix
  refine ⟨numbers.drop (s.replay.entries.length - s'.replay.entries.length), ?_, ?_, ?_⟩
  · rw [List.map_drop, ← hids, ← List.map_drop, ← hdrop]
  · exact hgrow.sublist (List.drop_sublist _ _)
  · intro n hn
    exact Nat.le_trans (hmost n (List.mem_of_mem_drop hn)) hsequence

/-- The next event is given the next number. -/
theorem Counts.publish {s : EventStream} (hs : s.Counts) (now : Nat) (e : Event)
    (he : e.id = []) : (s.perform now (.publish e)).Counts := by
  cases hremoved : s.removed with
  | true =>
    rw [perform, publish_removed s now e hremoved]
    exact hs
  | false =>
    let grown : EventStream :=
      { s with
        sequence := s.sequence + 1
        replay := { s.replay with entries := s.replay.entries ++ [⟨(s.stamp e).2, now⟩] } }
    have hgrown : grown.Counts := by
      obtain ⟨numbers, hids, hgrow, hmost⟩ := hs
      refine ⟨numbers ++ [s.sequence + 1], ?_, ?_, ?_⟩
      · have hstamp : (s.stamp e).2.id = Decimal.encode (s.sequence + 1) := by
          rw [stamp, he, List.isEmpty_nil, if_pos rfl]
        simp only [grown, List.map_append, List.map_cons, List.map_nil, hids, hstamp]
      · refine List.pairwise_append.mpr ⟨hgrow, List.pairwise_singleton _ _, ?_⟩
        intro m hm n hn
        have hle := hmost m hm
        rw [List.mem_singleton.mp hn]
        omega
      · intro n hn
        rcases List.mem_append.mp hn with hn | hn
        · exact Nat.le_succ_of_le (hmost n hn)
        · exact Nat.le_of_eq (List.mem_singleton.mp hn)
    rw [perform, publish_fst s now e hremoved, he, List.isEmpty_nil, if_pos rfl]
    split
    · cases henabled : s.replay.isEnabled with
      | true => exact hgrown.of_suffix (s.replay.append_suffix now _ henabled) (Nat.le_refl _)
      | false =>
        rw [s.replay.append_of_not_isEnabled now _ henabled]
        exact hs.of_suffix List.suffix_rfl (Nat.le_succ _)
    · exact hs.of_suffix List.suffix_rfl (Nat.le_succ _)

theorem Counts.perform {s : EventStream} (hs : s.Counts) (now : Nat) (op : Op)
    (hop : op.leavesId = true) : (s.perform now op).Counts := by
  cases hquiet : op.isQuiet with
  | true =>
    rw [perform_of_isQuiet s now op hquiet]
    exact hs
  | false =>
    cases op with
    | publish e => exact hs.publish now e (List.isEmpty_iff.mp hop)
    | remove => exact hs.of_suffix List.nil_suffix (Nat.le_refl _)
    | closeIfIdle =>
      simp only [EventStream.perform, closeIfIdle]
      split
      · exact hs.of_suffix List.nil_suffix (Nat.le_refl _)
      · exact hs
    | subscribe | unsubscribe | receive | drop | advance => exact Bool.noConfusion hquiet

/-- The ids are read as words as long as the counter is one. -/
theorem Counts.number?_isSome {s : EventStream} (hs : s.Counts)
    (hsequence : s.sequence < Decimal.wordLimit) :
    ∀ x ∈ s.replay.entries, (number? x).isSome = true := by
  obtain ⟨numbers, hids, _, hmost⟩ := hs
  intro x hx
  have hid : x.event.id ∈ numbers.map Decimal.encode := hids ▸ List.mem_map_of_mem hx
  obtain ⟨n, hn, hencode⟩ := List.mem_map.mp hid
  have hfits : n < Decimal.wordLimit := Nat.lt_of_le_of_lt (hmost n hn) hsequence
  rw [number?, ← hencode, Decimal.word_encode, Decimal.belowWordLimit, if_pos hfits]
  rfl

theorem Counts.ascending {s : EventStream} (hs : s.Counts)
    (hnumbers : ∀ x ∈ s.replay.entries, (number? x).isSome = true) :
    Ascending s.replay.entries := by
  obtain ⟨numbers, hids, hgrow, _⟩ := hs
  have hread : s.replay.entries.map number? =
      numbers.map fun n => Decimal.word (Decimal.encode n) := by
    have hwords := congrArg (List.map Decimal.word) hids
    rw [List.map_map, List.map_map] at hwords
    exact hwords
  refine ⟨numbers, hread.trans (List.map_congr_left ?_), hgrow⟩
  intro n hn
  have hmem : Decimal.word (Decimal.encode n) ∈ s.replay.entries.map number? :=
    hread ▸ List.mem_map_of_mem hn
  obtain ⟨x, hx, hnumber⟩ := List.mem_map.mp hmem
  have hsome := hnumbers x hx
  rw [hnumber, Decimal.word_encode, Decimal.belowWordLimit] at hsome
  rw [Decimal.word_encode, Decimal.belowWordLimit]
  split at hsome
  · next hfits => rw [if_pos hfits]
  · cases hsome

namespace History

theorem Reachable.counts {name : String} {settings : StreamSettings} {auto : Bool} {h : History}
    (hr : h.Reachable name settings auto) (hall : ∀ m ∈ h.past, m.op.leavesId = true) :
    h.stream.Counts := by
  induction hr with
  | start now => exact ⟨[], rfl, List.Pairwise.nil, fun n hn => nomatch hn⟩
  | @step h _ op ih =>
    have hop := hall (h.moment op) (List.mem_append_right _ (List.mem_singleton_self _))
    exact (ih fun m hm => hall m (List.mem_append_left _ hm)).perform h.now op hop

/-- If the ids of a log are numbers that grow, the snapshot after an id that is a number, however
it is written, holds exactly the live entries with a greater number, whether the log still has
an entry with this id, an expired one, none any more, or never had one. The log of a stream
that gave all its events their ids is such a log as long as its ids are words, and they are
while its counter is a word. -/
theorem resumption_by_number :
    (∀ (r : Replay) (now : Nat) (since : Bytes) (k : Nat), Ascending r.entries →
      Decimal.word since = some k →
      r.snapshot now since = (r.live now).filter (Replay.isAfter k)) ∧
    ∀ (name : String) (settings : StreamSettings) (auto : Bool) (h : History),
      h.Reachable name settings auto → (∀ m ∈ h.past, m.op.leavesId = true) →
      ((∀ x ∈ h.stream.replay.entries, (number? x).isSome = true) →
        Ascending h.stream.replay.entries) ∧
      (h.stream.sequence < Decimal.wordLimit →
        ∀ x ∈ h.stream.replay.entries, (number? x).isSome = true) := by
  refine ⟨?_, ?_⟩
  · intro r now since k hascending hk
    exact r.snapshot_eq_filter hascending now since k hk
  · intro name settings auto h hr hall
    have hcounts := hr.counts hall
    exact ⟨hcounts.ascending, hcounts.number?_isSome⟩

/-- Of four events the first has left the log, which has room for three, and the second has
expired in it. -/
def worn : History :=
  ofOps { ttl := some (.ofMillis 1000), capacity := some 3 } [.publish { data := [97] },
    .publish { data := [98] }, .advance (.ofMillis 600), .publish { data := [99] },
    .publish { data := [100] }, .advance (.ofMillis 600)]

/-- What follows the expired event, named `2` or `+02`, and what follows the forgotten one. -/
theorem resumption_by_number_worn :
    worn.Reachable "news" { ttl := some (.ofMillis 1000), capacity := some 3 } false ∧
      worn.stream.replay.entries.map (·.event.id) = [[50], [51], [52]] ∧
      ∀ since ∈ [[50], [43, 48, 50], [49]],
        (worn.stream.replay.snapshot worn.now since).map (·.event.data) = [[99], [100]] := by
  have hr : worn.Reachable "news" { ttl := some (.ofMillis 1000), capacity := some 3 } false :=
    reachable_ofOps _ _
  obtain ⟨hsnapshot, hstreams⟩ := resumption_by_number
  obtain ⟨hascending, hwords⟩ := hstreams _ _ _ worn hr (by decide +kernel)
  have hlog := hascending (hwords (by decide +kernel))
  refine ⟨hr, by decide +kernel, ?_⟩
  intro since hsince
  have hmarks : ∃ k, Decimal.word since = some k ∧
      ((worn.stream.replay.live worn.now).filter (Replay.isAfter k)).map (·.event.data) =
        [[99], [100]] := by
    simp only [List.mem_cons, List.not_mem_nil, or_false] at hsince
    rcases hsince with rfl | rfl | rfl
    · exact ⟨2, by decide +kernel, by decide +kernel⟩
    · exact ⟨2, by decide +kernel, by decide +kernel⟩
    · exact ⟨1, by decide +kernel, by decide +kernel⟩
  obtain ⟨k, hk, hdata⟩ := hmarks
  rw [hsnapshot worn.stream.replay worn.now since k hlog hk]
  exact hdata

end History

end EventStream

end EventBroker
