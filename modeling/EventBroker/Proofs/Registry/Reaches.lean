import EventBroker.Proofs.Registry

/-!
What an operation of the broker makes of a registry. However it comes about, it is a row
of three things: a name is inserted, a name is forgotten, the stream of a key takes a
step. Which steps may be taken is a parameter. What holds of every stream, or of every
name, is followed through the whole row at once.
-/
namespace EventBroker.Registry

open EventStream (Op)

inductive Reaches (allowed : Nat → Op → Prop) (r : Registry) : Registry → Prop
  | refl : Reaches allowed r r
  | inserted {r' r'' : Registry} {name : String} {auto : Bool} {key : Nat}
      (h : Reaches allowed r r') (hi : r'.Inserted name auto r'' key) : Reaches allowed r r''
  | forget {r' : Registry} (h : Reaches allowed r r') (name : String) :
      Reaches allowed r (r'.forget name)
  | perform {r' : Registry} (h : Reaches allowed r r') (key now : Nat) (op : Op)
      (hop : allowed key op) : Reaches allowed r (r'.perform key now op)

namespace Reaches

variable {allowed : Nat → Op → Prop} {r r' r'' : Registry}

theorem trans (h : r.Reaches allowed r') (h' : r'.Reaches allowed r'') : r.Reaches allowed r'' := by
  induction h' with
  | refl => exact h
  | inserted _ hi ih => exact ih.inserted hi
  | forget _ name ih => exact ih.forget name
  | perform _ key now op hop ih => exact ih.perform key now op hop

theorem mono {allowed' : Nat → Op → Prop} (h : r.Reaches allowed r')
    (hallowed : ∀ key op, allowed key op → allowed' key op) : r.Reaches allowed' r' := by
  induction h with
  | refl => exact .refl
  | inserted _ hi ih => exact ih.inserted hi
  | forget _ name ih => exact ih.forget name
  | perform _ key now op hop ih => exact ih.perform key now op (hallowed key op hop)

theorem settings_eq (h : r.Reaches allowed r') : r'.settings = r.settings := by
  induction h with
  | refl => rfl
  | inserted _ hi ih => exact hi.settings.trans ih
  | forget _ name ih => exact ih
  | perform _ key now op hop ih => exact ih

/-- A key that leads to no stream has never done so. -/
theorem unused (h : r.Reaches allowed r') (k : Nat) (hnone : r'.stream? k = none) :
    r.stream? k = none := by
  induction h with
  | refl => exact hnone
  | @inserted r' r'' name auto key _ hi ih =>
    apply ih
    cases hstream : r'.stream? k with
    | none => rfl
    | some stream => exact absurd (hi.streams k stream hstream) (by rw [hnone]; exact nofun)
  | forget _ name ih => exact ih hnone
  | perform _ key now op hop ih =>
    apply ih
    rw [stream?_perform] at hnone
    split at hnone
    · exact Option.map_eq_none_iff.mp hnone
    · exact hnone

/-- What holds of every stream, of a new one too, and is kept by the steps that may be taken. -/
theorem streams (h : r.Reaches allowed r') {P : Nat → EventStream → Prop}
    (hold : ∀ k stream, r.stream? k = some stream → P k stream)
    (hnew : ∀ k name auto, r.stream? k = none → P k (.new name r.settings auto))
    (hstep : ∀ k stream now op, allowed k op → P k stream → P k (stream.perform now op))
    (k : Nat) (stream : EventStream) (hstream : r'.stream? k = some stream) : P k stream := by
  induction h generalizing stream with
  | refl => exact hold k stream hstream
  | inserted h hi ih =>
    rcases hi.only k stream hstream with hbefore | ⟨hnone, _, rfl⟩
    · exact ih stream hbefore
    · rw [h.settings_eq]
      exact hnew k _ _ (h.unused k hnone)
  | forget _ name ih => exact ih stream hstream
  | perform _ key now op hop ih =>
    rw [stream?_perform] at hstream
    by_cases hkey : k = key
    · rw [if_pos hkey, Option.map_eq_some_iff] at hstream
      obtain ⟨old, hbefore, rfl⟩ := hstream
      rw [← hkey] at hop
      exact hstep k old now op hop (ih old hbefore)
    · rw [if_neg hkey] at hstream
      exact ih stream hstream

/-- A stream keeps the way in which it came into being. -/
theorem auto_eq (h : r.Reaches allowed r') (k : Nat) (old stream : EventStream)
    (hold : r.stream? k = some old) (hstream : r'.stream? k = some stream) :
    stream.auto = old.auto := by
  refine h.streams (P := fun j s => ∀ o, r.stream? j = some o → s.auto = o.auto) ?_ ?_ ?_ k stream
    hstream old hold
  · intro j s hs o ho
    rw [Option.some.inj (hs.symm.trans ho)]
  · intro j name auto hnone o ho
    cases hnone.symm.trans ho
  · intro j s now op _ hs o ho
    exact (s.perform_auto now op).trans (hs o ho)

/-- A removed stream stays, and stays removed. -/
theorem removed (h : r.Reaches allowed r') (k : Nat) (stream : EventStream)
    (hstream : r.stream? k = some stream) (hremoved : stream.removed = true) :
    ∃ stream', r'.stream? k = some stream' ∧ stream'.removed = true := by
  induction h with
  | refl => exact ⟨stream, hstream, hremoved⟩
  | inserted _ hi ih =>
    obtain ⟨old, hold, hgone⟩ := ih
    exact ⟨old, hi.streams k old hold, hgone⟩
  | forget _ name ih => exact ih
  | perform _ key now op hop ih =>
    obtain ⟨old, hold, hgone⟩ := ih
    rw [stream?_perform, hold]
    by_cases hkey : k = key
    · rw [if_pos hkey]
      exact ⟨_, rfl, old.perform_removed_of_removed now op hgone⟩
    · rw [if_neg hkey]
      exact ⟨old, rfl, hgone⟩

/-- What holds of every name and the key that it leads to, also where the key is new. -/
theorem names (h : r.Reaches allowed r') {P : String → Nat → Prop}
    (hold : ∀ name key, r.key? name = some key → P name key)
    (hnew : ∀ name key, r.stream? key = none → P name key)
    (name : String) (key : Nat) (hkey : r'.key? name = some key) : P name key := by
  induction h with
  | refl => exact hold name key hkey
  | @inserted r' r'' n auto k h hi ih =>
    by_cases hn : name = n
    · subst hn
      obtain rfl : k = key := Option.some.inj (hi.key_eq.symm.trans hkey)
      rcases hi.fresh with hbefore | ⟨hnone, _⟩
      · exact ih hbefore
      · exact hnew name k (h.unused k (hi.unused hnone))
    · exact ih ((hi.others name hn).symm.trans hkey)
  | forget _ n ih =>
    rw [key?_forget] at hkey
    split at hkey
    · cases hkey
    · exact ih hkey
  | perform _ k now op hop ih => exact ih hkey

end Reaches

theorem reaches_releaseIfIdle {allowed : Nat → Op → Prop} (r : Registry) (key : Nat)
    (hop : allowed key .closeIfIdle) : r.Reaches allowed (r.releaseIfIdle key).1 := by
  rcases r.releaseIfIdle_cases key 0 with hsame | ⟨stream, _, _, hreleased⟩
  · rw [hsame]
    exact .refl
  · rw [hreleased]
    exact (Reaches.refl.forget stream.name).perform key 0 .closeIfIdle hop

/-- The steps of a stream that its subscriber's connection can bring about. -/
def connectionOps (id : Nat) : List Op := [.receive id, .unsubscribe id, .drop id, .closeIfIdle]

theorem Served.reaches {allowed : Nat → Op → Prop} {r r' : Registry} {key id : Nat}
    {releases : Bool} (h : r.Served key id releases r')
    (hallowed : ∀ op ∈ connectionOps id, allowed key op) : r.Reaches allowed r' := by
  induction h with
  | refl => exact .refl
  | own _ now op hop ih =>
    apply ih.perform key now op
    apply hallowed
    simp only [List.mem_cons, List.not_mem_nil, or_false] at hop
    simp only [connectionOps, List.mem_cons, List.not_mem_nil, or_false]
    rcases hop with hop | hop | hop
    · exact Or.inl hop
    · exact Or.inr (Or.inl hop)
    · exact Or.inr (Or.inr (Or.inl hop))
  | release _ _ ih =>
    exact ih.trans (reaches_releaseIfIdle _ key (hallowed _ (by simp [connectionOps])))

theorem reaches_removePair {allowed : Nat → Op → Prop} (hallowed : ∀ key, allowed key .remove)
    (r : Registry) (pair : String × Nat) : r.Reaches allowed (r.removePair pair) :=
  (Reaches.refl.perform pair.2 0 .remove (hallowed pair.2)).forget pair.1

theorem reaches_remove {allowed : Nat → Op → Prop} (hallowed : ∀ key, allowed key .remove)
    (r : Registry) (name : String) : r.Reaches allowed (r.remove name).1 := by
  unfold remove
  cases r.key? name with
  | none => exact .refl
  | some key => exact reaches_removePair hallowed r (name, key)

theorem reaches_removeAll {allowed : Nat → Op → Prop} (hallowed : ∀ key, allowed key .remove)
    (r : Registry) : r.Reaches allowed r.removeAll := by
  have hpairs : ∀ (pairs : List (String × Nat)) (r : Registry),
      r.Reaches allowed (pairs.foldl removePair r) := by
    intro pairs
    induction pairs with
    | nil => exact fun _ => .refl
    | cons pair rest ih =>
      exact fun r => (reaches_removePair hallowed r pair).trans (ih (r.removePair pair))
  exact hpairs r.names r

end EventBroker.Registry
