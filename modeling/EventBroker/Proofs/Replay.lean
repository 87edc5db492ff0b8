import EventBroker.Replay

/-!
A log without a time to live and without a capacity forgets nothing.
-/
namespace EventBroker.Replay

structure Unbounded (r : Replay) : Prop where
  ttl : r.ttl = none
  capacity : r.capacity = none

namespace Unbounded

variable {r : Replay}

theorem isExpired (h : r.Unbounded) (now : Nat) (s : Stored) : r.isExpired now s = false := by
  simp only [Replay.isExpired, h.ttl]

theorem filter_live (h : r.Unbounded) (now : Nat) (entries : List Stored) :
    entries.filter (fun s => !r.isExpired now s) = entries := by
  rw [List.filter_eq_self]
  intro s _
  rw [h.isExpired now s]
  rfl

theorem prune_eq (h : r.Unbounded) (now : Nat) : r.prune now = r := by
  have hkept : r.entries.dropWhile (r.isExpired now) = r.entries := by
    cases r.entries with
    | nil => rfl
    | cons s rest => rw [List.dropWhile_cons, h.isExpired now s, if_neg Bool.false_ne_true]
  have hnewest : keepNewest r.capacity r.entries = r.entries := by rw [h.capacity, keepNewest]
  rw [prune, hkept, hnewest]

theorem append_eq (h : r.Unbounded) (now : Nat) (e : Event) :
    r.append now e = { r with entries := r.entries ++ [⟨e, now⟩] } := by
  have henabled : r.isEnabled = true := by
    rw [isEnabled, h.ttl, h.capacity]
    rfl
  rw [append, if_pos henabled]
  have happended : ({ r with entries := r.entries ++ [⟨e, now⟩] } : Replay).Unbounded :=
    ⟨h.ttl, h.capacity⟩
  exact happended.prune_eq now

theorem append (h : r.Unbounded) (now : Nat) (e : Event) : (r.append now e).Unbounded := by
  rw [h.append_eq now e]
  exact ⟨h.ttl, h.capacity⟩

theorem snapshot_nil (h : r.Unbounded) (now : Nat) : r.snapshot now [] = r.entries := by
  rw [snapshot, if_pos rfl, live, h.filter_live now]

end Unbounded

end EventBroker.Replay
