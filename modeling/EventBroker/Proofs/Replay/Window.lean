import EventBroker.Proofs.Decimal
import EventBroker.Replay
import Mathlib.Data.List.Infix

/-!
What a replay log lets through. A log keeps the end of what was stored in it, and a
snapshot after an id is taken behind the first entry that carries the id, if there is
one, and else is picked out by the order of ids. The first way misses nothing behind an
entry that is still there; the second one misses what does not come after the id.
-/
namespace EventBroker.Replay

theorem keepNewest_suffix (capacity : Option Nat) (entries : List Stored) :
    keepNewest capacity entries <:+ entries := by
  cases capacity with
  | none => exact List.suffix_rfl
  | some n => exact List.drop_suffix _ entries

theorem prune_suffix (r : Replay) (now : Nat) : (r.prune now).entries <:+ r.entries :=
  (keepNewest_suffix r.capacity _).trans (List.dropWhile_suffix _)

theorem append_suffix (r : Replay) (now : Nat) (e : Event) (henabled : r.isEnabled = true) :
    (r.append now e).entries <:+ r.entries ++ [⟨e, now⟩] := by
  rw [append, if_pos henabled]
  exact prune_suffix _ now

theorem append_of_not_isEnabled (r : Replay) (now : Nat) (e : Event)
    (henabled : r.isEnabled = false) : r.append now e = r := by
  rw [append, henabled, if_neg Bool.false_ne_true]

theorem isEnabled_append (r : Replay) (now : Nat) (e : Event) :
    (r.append now e).isEnabled = r.isEnabled := by
  unfold append
  split <;> rfl

/-- The first entry that carries an id stands at or before any other one. -/
theorem behind?_of_mem (id : Bytes) (front rest : List Stored) (s : Stored)
    (hs : s.event.id = id) :
    ∃ found, behind? id (front ++ s :: rest) = some found ∧ rest <:+ found := by
  induction front with
  | nil =>
    refine ⟨rest, ?_, List.suffix_rfl⟩
    rw [List.nil_append, behind?, if_pos hs]
  | cons first front ih =>
    rw [List.cons_append, behind?]
    split
    · exact ⟨_, rfl, (List.suffix_cons s rest).trans (List.suffix_append front _)⟩
    · exact ih

theorem behind?_of_first (id : Bytes) (front rest : List Stored) (s : Stored)
    (hs : s.event.id = id) (hfront : ∀ x ∈ front, x.event.id ≠ id) :
    behind? id (front ++ s :: rest) = some rest := by
  induction front with
  | nil => rw [List.nil_append, behind?, if_pos hs]
  | cons first front ih =>
    rw [List.cons_append, behind?, if_neg (hfront first List.mem_cons_self)]
    exact ih fun x hx => hfront x (List.mem_cons_of_mem first hx)

theorem behind?_eq_none (id : Bytes) (entries : List Stored)
    (hentries : ∀ x ∈ entries, x.event.id ≠ id) : behind? id entries = none := by
  induction entries with
  | nil => rfl
  | cons first rest ih =>
    rw [behind?, if_neg (hentries first List.mem_cons_self)]
    exact ih fun x hx => hentries x (List.mem_cons_of_mem first hx)

theorem suffix_of_behind? (id : Bytes) (entries found : List Stored)
    (hfound : behind? id entries = some found) : found <:+ entries := by
  induction entries with
  | nil => cases hfound
  | cons first rest ih =>
    rw [behind?] at hfound
    split at hfound
    · obtain rfl := Option.some.inj hfound
      exact List.suffix_cons first rest
    · exact (ih hfound).trans (List.suffix_cons first rest)

/-- A snapshot holds nothing but entries of the log. -/
theorem mem_of_mem_snapshot (r : Replay) (now : Nat) (since : Bytes) (x : Stored)
    (hx : x ∈ r.snapshot now since) : x ∈ r.entries := by
  unfold snapshot live at hx
  split at hx
  · exact List.mem_of_mem_filter hx
  · split at hx
    · next found hfound =>
      exact (suffix_of_behind? since r.entries found hfound).subset (List.mem_of_mem_filter hx)
    · exact List.mem_of_mem_filter (List.mem_of_mem_filter hx)

def fresh (r : Replay) (now : Nat) (entries : List Stored) : List Stored :=
  entries.filter fun s => !r.isExpired now s

/-- How ids are ordered: by number if both spell one of 64 bits, and bytewise if not, where a proper
beginning comes first. -/
def Follows (id since : Bytes) : Prop :=
  (∃ m n, Decimal.Spells id m ∧ Decimal.Spells since n ∧ n < m) ∨
    ((∀ m, ¬Decimal.Spells id m) ∨ ∀ n, ¬Decimal.Spells since n) ∧ since < id

theorem lt_iff (s t : Bytes) : Bytes.lt s t = true ↔ s < t := by
  induction s generalizing t with
  | nil => cases t <;> simp [Bytes.lt]
  | cons a s ih =>
    cases t with
    | nil => simp [Bytes.lt]
    | cons b t => simp [Bytes.lt, List.cons_lt_cons_iff, ih]

theorem idAfter_iff (id since : Bytes) : idAfter id since = true ↔ Follows id since := by
  simp only [Follows, ← Decimal.word_eq_some_iff, ← Option.eq_none_iff_forall_ne_some, idAfter]
  cases Decimal.word id with
  | none => simp [lt_iff]
  | some m =>
    cases Decimal.word since with
    | none => simp [lt_iff]
    | some n => simp

instance (id since : Bytes) : Decidable (Follows id since) :=
  decidable_of_iff _ (idAfter_iff id since)

theorem not_follows_self (id : Bytes) : ¬Follows id id := by
  rintro (⟨m, n, hm, hn, hlt⟩ | ⟨_, hlt⟩)
  · rw [← Decimal.word_eq_some_iff] at hm hn
    obtain rfl := Option.some.inj (hm.symm.trans hn)
    exact Nat.lt_irrefl m hlt
  · exact List.lt_irrefl id hlt

section Snapshot

variable (r : Replay) (now : Nat) (since : Bytes)

/-- What stands behind an entry with the id is not missed. -/
theorem fresh_suffix_snapshot (front rest : List Stored) (s : Stored) (hsince : since ≠ [])
    (hentries : r.entries = front ++ s :: rest) (hs : s.event.id = since) :
    r.fresh now rest <:+ r.snapshot now since := by
  obtain ⟨found, hfound, hsuffix⟩ := behind?_of_mem since front rest s hs
  rw [snapshot, if_neg hsince, hentries, hfound]
  exact hsuffix.filter _

theorem snapshot_of_first (front rest : List Stored) (s : Stored) (hsince : since ≠ [])
    (hentries : r.entries = front ++ s :: rest) (hs : s.event.id = since)
    (hfront : ∀ x ∈ front, x.event.id ≠ since) : r.snapshot now since = r.fresh now rest := by
  rw [snapshot, if_neg hsince, hentries, behind?_of_first since front rest s hs hfront]
  rfl

theorem snapshot_of_absent (hsince : since ≠ [])
    (habsent : ∀ x ∈ r.entries, x.event.id ≠ since) :
    r.snapshot now since = r.fresh now (r.entries.filter fun s => Follows s.event.id since) := by
  have horder : r.entries.filter (fun s => idAfter s.event.id since) =
      r.entries.filter fun s => Follows s.event.id since := by
    refine List.filter_congr fun s _ => ?_
    rw [Bool.eq_iff_iff, idAfter_iff, decide_eq_true_iff]
  rw [snapshot, if_neg hsince, behind?_eq_none since r.entries habsent, ← horder]
  exact List.filter_comm _ _ r.entries

end Snapshot

end EventBroker.Replay
