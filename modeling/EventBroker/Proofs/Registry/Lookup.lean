import EventBroker.Proofs.Registry.History

/-!
What a name leads to. Whatever is called and in whatever order, every stream that was ever
made is the one of its name or removed, so a stream that still takes events is found by
its name, and no name has two of them. A name leads to a removed stream only where the
stream was removed through its handle, which the registry does not hear of; in every other
case a look-up finds a stream that is not removed, and a creation gives one that takes
events and subscribers.
-/
namespace EventBroker.Registry

open EventStream (Op)

structure Accounted (r : Registry) : Prop where
  named : ∀ name key, r.key? name = some key →
    ∃ stream, r.stream? key = some stream ∧ stream.name = name
  kept : ∀ key stream, r.stream? key = some stream →
    r.key? stream.name = some key ∨ stream.removed = true
  settings : ∀ key stream, r.stream? key = some stream → stream.settings = r.settings

namespace Accounted

variable {r : Registry}

theorem key_inj (ha : r.Accounted) (name name' : String) (key : Nat)
    (h : r.key? name = some key) (h' : r.key? name' = some key) : name = name' := by
  obtain ⟨stream, hstream, hname⟩ := ha.named name key h
  obtain ⟨stream', hstream', hname'⟩ := ha.named name' key h'
  obtain rfl : stream = stream' := Option.some.inj (hstream.symm.trans hstream')
  exact hname.symm.trans hname'

theorem inserted (ha : r.Accounted) {r' : Registry} {name : String} {auto : Bool} {key : Nat}
    (hi : r.Inserted name auto r' key) : r'.Accounted := by
  refine ⟨?_, ?_, ?_⟩
  · intro n k hk
    by_cases hn : n = name
    · subst hn
      obtain rfl : key = k := Option.some.inj (hi.key_eq.symm.trans hk)
      rcases hi.fresh with hkey | ⟨_, hnew⟩
      · obtain ⟨stream, hstream, hname⟩ := ha.named n key hkey
        exact ⟨stream, hi.streams key stream hstream, hname⟩
      · exact ⟨_, hnew, rfl⟩
    · obtain ⟨stream, hstream, hname⟩ := ha.named n k ((hi.others n hn).symm.trans hk)
      exact ⟨stream, hi.streams k stream hstream, hname⟩
  · intro k stream hstream
    rcases hi.only k stream hstream with hbefore | ⟨_, rfl, rfl⟩
    · rcases ha.kept k stream hbefore with hkey | hremoved
      · exact Or.inl (hi.key?_of_some hkey)
      · exact Or.inr hremoved
    · exact Or.inl hi.key_eq
  · intro k stream hstream
    rw [hi.settings]
    rcases hi.only k stream hstream with hbefore | ⟨_, _, rfl⟩
    · exact ha.settings k stream hbefore
    · rfl

/-- A step of a stream leaves it its name, and it never makes it alive again. -/
theorem perform (ha : r.Accounted) (key now : Nat) (op : Op) :
    (r.perform key now op).Accounted := by
  have hold : ∀ k stream, (r.perform key now op).stream? k = some stream →
      ∃ old, r.stream? k = some old ∧ stream.name = old.name ∧ stream.settings = old.settings ∧
        (old.removed = true → stream.removed = true) := by
    intro k stream hstream
    rw [stream?_perform] at hstream
    by_cases hk : k = key
    · rw [if_pos hk, Option.map_eq_some_iff] at hstream
      obtain ⟨old, hbefore, rfl⟩ := hstream
      obtain ⟨hname, hsettings⟩ := old.perform_identity now op
      exact ⟨old, hbefore, hname, hsettings, old.perform_removed_of_removed now op⟩
    · rw [if_neg hk] at hstream
      exact ⟨stream, hstream, rfl, rfl, id⟩
  refine ⟨?_, ?_, ?_⟩
  · intro name k hk
    obtain ⟨stream, hstream, hname⟩ := ha.named name k hk
    rw [stream?_perform, hstream]
    by_cases hkey : k = key
    · rw [if_pos hkey]
      exact ⟨_, rfl, (stream.perform_identity now op).1.trans hname⟩
    · rw [if_neg hkey]
      exact ⟨stream, rfl, hname⟩
  · intro k stream hstream
    obtain ⟨old, hbefore, hname, _, hremoved⟩ := hold k stream hstream
    rw [hname]
    rcases ha.kept k old hbefore with hkey | hgone
    · exact Or.inl hkey
    · exact Or.inr (hremoved hgone)
  · intro k stream hstream
    obtain ⟨old, hbefore, _, hsettings, _⟩ := hold k stream hstream
    exact hsettings.trans (ha.settings k old hbefore)

/-- A name can be taken from a stream whose life ends with it. -/
theorem ended (ha : r.Accounted) (name : String) (key now : Nat) (op : Op)
    (hkey : r.key? name = some key)
    (hended : ∀ stream, r.stream? key = some stream → (stream.perform now op).removed = true) :
    ((r.forget name).perform key now op).Accounted := by
  have hperformed := ha.perform key now op
  refine ⟨?_, ?_, hperformed.settings⟩
  · intro n k hk
    have hforgotten : (r.forget name).key? n = some k := hk
    rw [key?_forget] at hforgotten
    split at hforgotten
    · cases hforgotten
    · exact hperformed.named n k hforgotten
  · intro k stream hstream
    have hfound : (r.perform key now op).stream? k = some stream := hstream
    rcases hperformed.kept k stream hfound with hbefore | hremoved
    · by_cases hname : stream.name = name
      · right
        have hk : r.key? stream.name = some k := hbefore
        rw [hname, hkey, Option.some.injEq] at hk
        rw [← hk, stream?_perform, if_pos rfl, Option.map_eq_some_iff] at hfound
        obtain ⟨old, hold, rfl⟩ := hfound
        exact hended old hold
      · left
        have hforgotten : (r.forget name).key? stream.name = some k := by
          rw [key?_forget, if_neg hname]
          exact hbefore
        exact hforgotten
    · exact Or.inr hremoved

/-- To empty a registry ends every stream that still has its name. -/
theorem removeAll (ha : r.Accounted) : r.removeAll.Accounted := by
  have hreaches : r.Reaches (fun _ _ => True) r.removeAll := reaches_removeAll (fun _ => trivial) r
  refine ⟨?_, ?_, ?_⟩
  · intro name key hkey
    cases (r.key?_removeAll name).symm.trans hkey
  · intro key stream hstream
    right
    rcases stream?_foldl_removePair r.names r key stream hstream with hremoved | ⟨hout, hbefore⟩
    · exact hremoved
    · rcases ha.kept key stream hbefore with hkey | hremoved
      · exact absurd (mem_names_of_key? r stream.name key hkey) hout
      · exact hremoved
  · rw [hreaches.settings_eq]
    refine hreaches.streams ha.settings ?_ ?_
    · exact fun _ _ _ _ => rfl
    · intro key stream now op _ hsettings
      exact (stream.perform_identity now op).2.trans hsettings

end Accounted

theorem Moment.Makes.accounted {m : Moment} {r : Registry} (h : m.Makes r)
    (ha : m.registry.Accounted) : r.Accounted := by
  cases h with
  | same => exact ha
  | inserted hi => exact ha.inserted hi
  | performed key op hop => exact ha.perform key m.now op
  | discarded key hcall => exact ha.perform key m.now .remove
  | ended name key op hkey hended => exact ha.ended name key m.now op hkey hended
  | emptied => exact ha.removeAll

structure Open (r : Registry) (key : Nat) : Prop where
  publishes : ∀ now e, (r.publish key now e).2 = true
  subscribes : 0 < r.settings.queueCapacity → r.settings.queueCapacity ≤ maxQueueCapacity →
    ∀ now lastSeen, ∃ answer, (r.subscribe key now lastSeen).2 = .ok answer

theorem Accounted.open_of_kept {r : Registry} (ha : r.Accounted) (key : Nat)
    (stream : EventStream) (hstream : r.stream? key = some stream)
    (hremoved : stream.removed = false) : r.Open key := by
  constructor
  · intro now e
    rw [r.publish_eq key now e stream hstream]
    simp only [EventStream.publish, hremoved, Bool.false_eq_true, if_false]
  · intro hroom hmost now lastSeen
    rw [← ha.settings key stream hstream] at hroom hmost
    rw [r.subscribe_eq key now lastSeen stream hstream]
    exact stream.exists_subscribe_ok now lastSeen hremoved hroom hmost

namespace History

variable {settings : StreamSettings} {h : History}

structure Traced (settings : StreamSettings) (h : History) : Prop where
  settings_eq : h.registry.settings = settings
  accounted : h.registry.Accounted
  live : ∀ name key stream, h.registry.key? name = some key →
    h.registry.stream? key = some stream → stream.removed = true → key ∈ h.discarded
  gone : ∀ key ∈ h.discarded, ∃ stream, h.registry.stream? key = some stream ∧
    stream.removed = true

/-- A name that leads to a removed stream after a call did so before, or the call is the one that
removed the stream through its handle. -/
theorem Traced.live_step (ht : h.Traced settings) (call : Call) (name : String) (key : Nat)
    (stream : EventStream) (r : Registry) (hmakes : (h.moment call).Makes r)
    (hkey : r.key? name = some key) (hstream : r.stream? key = some stream)
    (hremoved : stream.removed = true) :
    key ∈ h.discarded ∨ (h.moment call).discarded = some key := by
  cases hmakes with
  | same => exact Or.inl (ht.live name key stream hkey hstream hremoved)
  | @inserted _ n auto k hi =>
    left
    rcases hi.only key stream hstream with hbefore | ⟨_, _, rfl⟩
    · obtain ⟨old, hold, hname⟩ := (ht.accounted.inserted hi).named name key hkey
      obtain rfl : stream = old := Option.some.inj (hstream.symm.trans hold)
      refine ht.live name key stream ?_ hbefore hremoved
      by_cases hn : name = n
      · rw [hn] at hkey ⊢
        rcases hi.fresh with hfound | ⟨hnone, _⟩
        · exact hfound.trans (hi.key_eq.symm.trans hkey)
        · have hunused := hi.unused hnone
          rw [Option.some.inj (hi.key_eq.symm.trans hkey)] at hunused
          cases hunused.symm.trans hbefore
      · exact (hi.others name hn).symm.trans hkey
    · cases hremoved
  | performed k op hop =>
    left
    rw [stream?_perform] at hstream
    split at hstream
    · obtain ⟨old, hold, rfl⟩ := Option.map_eq_some_iff.mp hstream
      rw [old.perform_removed _ op hop] at hremoved
      exact ht.live name key old hkey hold hremoved
    · exact ht.live name key stream hkey hstream hremoved
  | discarded k hcall =>
    by_cases hk : key = k
    · right
      obtain ⟨old, hold, _⟩ := ht.accounted.named name key hkey
      have hfound : h.registry.stream? k = some old := hk ▸ hold
      simp only [moment] at hcall
      simp only [moment, Moment.discarded, hcall, hfound, Option.map_some, hk]
    · left
      rw [stream?_perform, if_neg hk] at hstream
      exact ht.live name key stream hkey hstream hremoved
  | ended n k op hn hended =>
    left
    have hforgotten : (h.registry.forget n).key? name = some key := hkey
    rw [key?_forget] at hforgotten
    split at hforgotten
    · cases hforgotten
    · next hne =>
      have hk : key ≠ k := by
        rintro rfl
        exact hne (ht.accounted.key_inj name n key hforgotten hn)
      rw [stream?_perform, if_neg hk] at hstream
      exact ht.live name key stream hforgotten hstream hremoved
  | emptied => cases (h.registry.key?_removeAll name).symm.trans hkey

theorem Traced.step (ht : h.Traced settings) (call : Call) : (h.step call).Traced settings := by
  have hmakes := (h.moment call).makes_after
  have hreaches := hmakes.reaches
  refine ⟨hreaches.settings_eq.trans ht.settings_eq, hmakes.accounted ht.accounted, ?_, ?_⟩
  · intro name key stream hkey hstream hremoved
    rw [discarded_step]
    rcases ht.live_step call name key stream _ hmakes hkey hstream hremoved with hbefore | hnow
    · exact List.mem_append_left _ hbefore
    · rw [hnow]
      exact List.mem_append_right _ (List.mem_singleton.mpr rfl)
  · intro key hkey
    rw [discarded_step] at hkey
    rcases List.mem_append.mp hkey with hbefore | hnow
    · obtain ⟨stream, hstream, hremoved⟩ := ht.gone key hbefore
      exact hreaches.removed key stream hstream hremoved
    · rw [Option.mem_toList] at hnow
      unfold Moment.discarded at hnow
      split at hnow
      · next k hcall =>
        obtain ⟨stream, hstream, rfl⟩ := Option.map_eq_some_iff.mp hnow
        refine ⟨stream.remove, ?_, rfl⟩
        have hafter : (h.moment call).after = h.registry.modify k .remove := by
          simp only [Moment.after, hcall]
          rfl
        change (h.moment call).after.stream? k = _
        rw [hafter, stream?_modify, if_pos rfl]
        exact congrArg _ hstream
      · cases hnow

theorem Reachable.traced (hr : h.Reachable settings) : h.Traced settings := by
  induction hr with
  | start now =>
    refine ⟨rfl, ⟨?_, ?_, ?_⟩, ?_, ?_⟩
    · intro name key hkey
      cases hkey
    · intro key stream hstream
      cases hstream
    · intro key stream hstream
      cases hstream
    · intro name key stream hkey
      cases hkey
    · intro key hkey
      cases hkey
  | step hr call ih => exact ih.step call

/-- Every stream that was ever made is found under its name or removed. So of the streams of one
name at most one is not removed, and an event that is taken through any handle goes to the very
stream that is found under the name. -/
theorem live_is_registered (settings : StreamSettings) (h : History) (hr : h.Reachable settings) :
    (∀ key stream, h.registry.stream? key = some stream →
      h.registry.key? stream.name = some key ∨ stream.removed = true) ∧
    (∀ key key' stream stream', h.registry.stream? key = some stream →
      h.registry.stream? key' = some stream' → stream.name = stream'.name →
      stream.removed = false → stream'.removed = false → key = key') ∧
    ∀ key e, (h.registry.publish key h.now e).2 = true →
      ∃ stream, h.registry.stream? key = some stream ∧
        h.registry.key? stream.name = some key ∧ h.registry.get? stream.name = some stream ∧
        (h.registry.publish key h.now e).1.get? stream.name = some (stream.publish h.now e).1 := by
  have hkept := hr.traced.accounted.kept
  have hfound : ∀ key stream, h.registry.stream? key = some stream → stream.removed = false →
      h.registry.key? stream.name = some key := by
    intro key stream hstream hremoved
    rcases hkept key stream hstream with hkey | hgone
    · exact hkey
    · cases hremoved.symm.trans hgone
  refine ⟨hkept, ?_, ?_⟩
  · intro key key' stream stream' hstream hstream' hname hremoved hremoved'
    have hkey := hfound key stream hstream hremoved
    have hkey' := hfound key' stream' hstream' hremoved'
    rw [hname, hkey'] at hkey
    exact (Option.some.inj hkey).symm
  · intro key e htaken
    cases hstream : h.registry.stream? key with
    | none =>
      simp only [publish, hstream] at htaken
      cases htaken
    | some stream =>
      rw [h.registry.publish_eq key h.now e stream hstream] at htaken ⊢
      have hremoved : stream.removed = false := by
        cases hgone : stream.removed with
        | false => rfl
        | true =>
          rw [stream.publish_removed h.now e hgone] at htaken
          cases htaken
      have hkey := hfound key stream hstream hremoved
      have hafter : (h.registry.perform key h.now (.publish e)).key? stream.name = some key := hkey
      refine ⟨stream, rfl, hkey, ?_, ?_⟩
      · rw [get?, hkey, Option.bind_some, hstream]
      · rw [get?, hafter, Option.bind_some, stream?_perform, if_pos rfl, hstream]
        rfl

/-- A stream is removed by its name, and the name is taken by a new one. The handle of the first
is still good, and the stream is removed through it once more. -/
def replaced : History :=
  ofCalls {} [.create "news", .publish 0 { data := [97] }, .remove "news", .getOrCreate "news",
    .removeStream 0]

theorem live_is_registered_replaced :
    replaced.Reachable {} ∧ (replaced.registry.publish 0 0 { data := [98] }).2 = false ∧
      (replaced.registry.publish 1 0 { data := [98] }).2 = true ∧
      ∃ stream, replaced.registry.stream? 1 = some stream ∧
        replaced.registry.get? stream.name = some stream ∧
        (replaced.registry.publish 1 0 { data := [98] }).1.get? stream.name =
          some (stream.publish 0 { data := [98] }).1 := by
  have hr : replaced.Reachable {} := reachable_ofCalls _ _
  have htaken : (replaced.registry.publish 1 0 { data := [98] }).2 = true := by decide +kernel
  obtain ⟨_, _, hpublish⟩ := live_is_registered {} replaced hr
  obtain ⟨stream, hstream, _, hget, hafter⟩ := hpublish 1 { data := [98] } htaken
  exact ⟨hr, by decide +kernel, htaken, stream, hstream, hget, hafter⟩

/-- A stream that is made, or found where no handle was used to remove it, is not removed. -/
theorem Traced.usable (ht : h.Traced settings) {name : String} {auto : Bool} {r : Registry}
    {key : Nat} (hi : h.registry.Inserted name auto r key)
    (hhandles : ∀ k, h.registry.key? name = some k → k ∉ h.discarded) :
    r.Open key ∧ (h.registry.key? name = none → h.registry.stream? key = none) ∧
      ∃ stream, r.get? name = some stream ∧ r.stream? key = some stream ∧
        stream.removed = false := by
  have ha := ht.accounted.inserted hi
  obtain ⟨stream, hstream, hname⟩ := ha.named name key hi.key_eq
  have hremoved : stream.removed = false := by
    rcases hi.fresh with hkey | ⟨_, hnew⟩
    · cases hgone : stream.removed with
      | false => rfl
      | true =>
        rcases hi.only key stream hstream with hbefore | ⟨_, _, rfl⟩
        · exact absurd (ht.live name key stream hkey hbefore hgone) (hhandles key hkey)
        · cases hgone
    · obtain rfl := Option.some.inj (hnew.symm.trans hstream)
      rfl
  refine ⟨ha.open_of_kept key stream hstream hremoved, hi.unused, stream, ?_, hstream, hremoved⟩
  rw [get?, hi.key_eq, Option.bind_some, hstream]

/-- A name leads to a removed stream exactly where the stream was removed through its handle. Of
any other name a look-up finds no removed stream, and a creation gives a stream that is not
removed, a new one if there was none, which takes events and subscribers. -/
theorem lookup_usable (settings : StreamSettings) (h : History) (hr : h.Reachable settings)
    (name : String) :
    (∀ key stream, h.registry.key? name = some key → h.registry.stream? key = some stream →
      (stream.removed = true ↔ key ∈ h.discarded)) ∧
    ((∀ key, h.registry.key? name = some key → key ∉ h.discarded) →
      (∀ stream, h.registry.get? name = some stream → stream.removed = false) ∧
      ∀ r key, (r, key) = h.registry.create name ∨ (r, key) = h.registry.getOrCreate name →
        r.Open key ∧ (h.registry.key? name = none → h.registry.stream? key = none) ∧
        ∃ stream, r.get? name = some stream ∧ r.stream? key = some stream ∧
          stream.removed = false) := by
  have ht := hr.traced
  refine ⟨?_, ?_⟩
  · intro key stream hkey hstream
    constructor
    · exact ht.live name key stream hkey hstream
    · intro hdiscarded
      obtain ⟨old, hold, hremoved⟩ := ht.gone key hdiscarded
      obtain rfl : old = stream := Option.some.inj (hold.symm.trans hstream)
      exact hremoved
  · intro hhandles
    refine ⟨?_, ?_⟩
    · intro stream hget
      obtain ⟨key, hkey, hstream⟩ := Option.bind_eq_some_iff.mp hget
      cases hremoved : stream.removed with
      | false => rfl
      | true => exact absurd (ht.live name key stream hkey hstream hremoved) (hhandles key hkey)
    · rintro r key (hcreated | hcreated)
      · have hi := h.registry.inserted_insert name false
        obtain ⟨rfl, rfl⟩ := Prod.mk.inj hcreated
        exact ht.usable hi hhandles
      · have hi := h.registry.inserted_insert name true
        obtain ⟨rfl, rfl⟩ := Prod.mk.inj hcreated
        exact ht.usable hi hhandles

theorem lookup_usable_replaced :
    replaced.Reachable {} ∧ replaced.discarded = [0] ∧
      (∀ key, replaced.registry.key? "news" = some key → key ∉ replaced.discarded) ∧
      (replaced.registry.create "news").2 = 1 ∧ (replaced.registry.create "news").1.Open 1 := by
  have hr : replaced.Reachable {} := reachable_ofCalls _ _
  have hdiscarded : replaced.discarded = [0] := by decide +kernel
  have hhandles : ∀ key, replaced.registry.key? "news" = some key → key ∉ replaced.discarded := by
    intro key hkey
    have hcurrent : replaced.registry.key? "news" = some 1 := by decide +kernel
    obtain rfl : 1 = key := Option.some.inj (hcurrent.symm.trans hkey)
    rw [hdiscarded]
    decide
  have hcreated : (replaced.registry.create "news").2 = 1 := by decide +kernel
  obtain ⟨_, husable⟩ := lookup_usable {} replaced hr "news"
  obtain ⟨hopen, _⟩ := (husable hhandles).2 (replaced.registry.create "news").1
    (replaced.registry.create "news").2 (Or.inl rfl)
  rw [hcreated] at hopen
  exact ⟨hr, hdiscarded, hhandles, hcreated, hopen⟩

/-- It is not so that a name never leads to a removed stream: one that is removed through its
handle keeps the name. -/
theorem lookup_finds_removed :
    ¬∀ (settings : StreamSettings) (h : History) (name : String) (stream : EventStream),
      h.Reachable settings → h.registry.get? name = some stream → stream.removed = false := by
  intro hall
  have hremoved := hall {} (ofCalls {} [.create "news", .removeStream 0]) "news"
    (EventStream.new "news" {} false).remove (reachable_ofCalls _ _) (by decide +kernel)
  cases hremoved

end History

end EventBroker.Registry
