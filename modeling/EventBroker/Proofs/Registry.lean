import EventBroker.Proofs.EventStream.Mailbox
import EventBroker.Registry

/-!
Streams by name and by key. Every operation of the registry is a step of the stream that
has the key, a new stream under a new key, or a name that is forgotten. The stream found
under a name carries that name, so that two names never share a stream, and it is not
removed.
-/
namespace EventBroker.Registry

open EventStream (Op)

def perform (r : Registry) (key now : Nat) (op : Op) : Registry :=
  r.modify key (·.perform now op)

theorem stream?_modify (r : Registry) (key k : Nat) (f : EventStream → EventStream) :
    (r.modify key f).stream? k = if k = key then (r.stream? k).map f else r.stream? k := by
  unfold modify stream?
  by_cases hkey : k = key
  · rw [if_pos hkey, hkey, List.getElem?_modify_eq]
    rfl
  · rw [if_neg hkey, List.getElem?_modify_ne f r.objects (Ne.symm hkey)]

theorem stream?_perform (r : Registry) (key k now : Nat) (op : Op) :
    (r.perform key now op).stream? k =
      if k = key then (r.stream? k).map (·.perform now op) else r.stream? k :=
  stream?_modify r key k _

theorem stream?_perform_eq_none (r : Registry) (key k now : Nat) (op : Op)
    (h : r.stream? k = none) : (r.perform key now op).stream? k = none := by
  rw [stream?_perform, h]
  split <;> rfl

theorem modify_of_stream? (r : Registry) (key : Nat) (stream : EventStream)
    (h : r.stream? key = some stream) (f g : EventStream → EventStream)
    (hfg : f stream = g stream) : r.modify key f = r.modify key g := by
  have hobjects : r.objects.modify key f = r.objects.modify key g := by
    apply List.ext_getElem?
    intro k
    by_cases hkey : k = key
    · subst hkey
      have hget : r.objects[k]? = some stream := h
      rw [List.getElem?_modify_eq, List.getElem?_modify_eq, hget]
      exact congrArg some hfg
    · rw [List.getElem?_modify_ne f _ (Ne.symm hkey), List.getElem?_modify_ne g _ (Ne.symm hkey)]
  rw [modify, modify, hobjects]

theorem publish_eq (r : Registry) (key now : Nat) (e : Event) (stream : EventStream)
    (h : r.stream? key = some stream) :
    r.publish key now e = (r.perform key now (.publish e), (stream.publish now e).2) := by
  simp only [publish, h]
  exact congrArg (·, _) (r.modify_of_stream? key stream h _ _ rfl)

theorem subscribe_eq (r : Registry) (key now : Nat) (lastSeen : Bytes) (stream : EventStream)
    (h : r.stream? key = some stream) :
    r.subscribe key now lastSeen =
      (r.perform key now (.subscribe lastSeen), (stream.subscribe now lastSeen).2) := by
  simp only [subscribe, h]
  exact congrArg (·, _) (r.modify_of_stream? key stream h _ _ rfl)

theorem receive_eq (r : Registry) (key id now : Nat) (stream : EventStream)
    (h : r.stream? key = some stream) :
    r.receive key id = (r.perform key now (.receive id), (stream.receive id).2) := by
  simp only [receive, h]
  exact congrArg (·, _) (r.modify_of_stream? key stream h _ _ rfl)

theorem lookup_filter_ne {κ α : Type} [DecidableEq κ] (pairs : List (κ × α)) (k n : κ) :
    (pairs.filter (·.1 != k)).lookup n = if n = k then none else pairs.lookup n := by
  induction pairs with
  | nil => simp
  | cons pair rest ih =>
    obtain ⟨m, a⟩ := pair
    by_cases hm : m = k
    · subst hm
      rw [List.filter_cons_of_neg (by simp), ih, List.lookup_cons]
      by_cases hn : n = m
      · rw [if_pos hn, if_pos hn]
      · rw [if_neg hn, if_neg hn, beq_eq_false_iff_ne.mpr hn]
    · rw [List.filter_cons_of_pos (by simpa using hm), List.lookup_cons, List.lookup_cons, ih]
      by_cases hn : n = m
      · subst hn
        simp [hm]
      · rw [beq_eq_false_iff_ne.mpr hn]

theorem key?_forget (r : Registry) (name n : String) :
    (r.forget name).key? n = if n = name then none else r.key? n :=
  lookup_filter_ne r.names name n

/-- A name that is inserted is found, or a new stream is made for it. -/
theorem insert_cases (r : Registry) (name : String) (auto : Bool) :
    (∃ key, r.key? name = some key ∧ r.insert name auto = (r, key)) ∨
      r.key? name = none ∧
        r.insert name auto =
          ({ r with
              objects := r.objects ++ [.new name r.settings auto]
              names := r.names ++ [(name, r.objects.length)] }, r.objects.length) := by
  unfold insert
  cases hkey : r.key? name with
  | some key => exact Or.inl ⟨key, rfl, rfl⟩
  | none => exact Or.inr ⟨rfl, rfl⟩

/-- An implicit stream that nobody is attached to is closed and loses its name. -/
theorem releaseIfIdle_eq (r : Registry) (key now : Nat) (stream : EventStream)
    (hstream : r.stream? key = some stream) :
    r.releaseIfIdle key =
      if r.key? stream.name = some key ∧ stream.auto = true ∧ stream.isIdle = true then
        ((r.forget stream.name).perform key now .closeIfIdle, true)
      else (r, false) := by
  simp only [releaseIfIdle, hstream]
  by_cases hauto : r.key? stream.name = some key ∧ stream.auto = true
  · rw [if_pos hauto]
    cases hidle : stream.isIdle with
    | false =>
      have hopen : stream.closeIfIdle = (stream, false) := by
        rw [EventStream.closeIfIdle, hidle, if_neg Bool.false_ne_true]
      rw [hopen, if_neg (fun h => Bool.false_ne_true h.2.2)]
    | true =>
      have hclosed : stream.closeIfIdle = (stream.perform now .closeIfIdle, true) := by
        simp only [EventStream.perform, EventStream.closeIfIdle, hidle, if_true]
      rw [hclosed, if_pos ⟨hauto.1, hauto.2, rfl⟩]
      have hmodify := r.modify_of_stream? key stream hstream
        (fun _ => stream.perform now .closeIfIdle) (·.perform now .closeIfIdle) rfl
      exact congrArg (fun r' => (r'.forget stream.name, true)) hmodify
  · rw [if_neg hauto, if_neg (fun h => hauto ⟨h.1, h.2.1⟩)]

theorem releaseIfIdle_cases (r : Registry) (key now : Nat) :
    (r.releaseIfIdle key).1 = r ∨
      ∃ stream, r.stream? key = some stream ∧ r.key? stream.name = some key ∧
        (r.releaseIfIdle key).1 = (r.forget stream.name).perform key now .closeIfIdle := by
  cases hstream : r.stream? key with
  | none =>
    left
    rw [releaseIfIdle, hstream]
  | some stream =>
    rw [r.releaseIfIdle_eq key now stream hstream]
    split
    · next hreleased => exact Or.inr ⟨stream, rfl, hreleased.1, rfl⟩
    · exact Or.inl rfl

/-- The streams of `r` are still there in `r'`, and their ids have not been given back. -/
def Extends (r r' : Registry) : Prop :=
  ∀ key stream, r.stream? key = some stream →
    ∃ stream', r'.stream? key = some stream' ∧ stream.nextSubscriber ≤ stream'.nextSubscriber

theorem Extends.refl (r : Registry) : r.Extends r :=
  fun _ stream h => ⟨stream, h, Nat.le_refl _⟩

theorem Extends.trans {r r' r'' : Registry} (h : r.Extends r') (h' : r'.Extends r'') :
    r.Extends r'' := by
  intro key stream hstream
  obtain ⟨stream', hstream', hle⟩ := h key stream hstream
  obtain ⟨stream'', hstream'', hle'⟩ := h' key stream' hstream'
  exact ⟨stream'', hstream'', Nat.le_trans hle hle'⟩

theorem extends_perform (r : Registry) (key now : Nat) (op : Op) :
    r.Extends (r.perform key now op) := by
  intro k stream hstream
  rw [stream?_perform, hstream]
  by_cases hkey : k = key
  · rw [if_pos hkey]
    exact ⟨_, rfl, stream.nextSubscriber_le_perform now op⟩
  · rw [if_neg hkey]
    exact ⟨stream, rfl, Nat.le_refl _⟩

structure Sound (r : Registry) : Prop where
  named : ∀ name key, r.key? name = some key →
    ∃ stream, r.stream? key = some stream ∧ stream.name = name ∧ stream.removed = false
  ids : ∀ key stream, r.stream? key = some stream → stream.IdsBelow

theorem Sound.key_inj {r : Registry} (hs : r.Sound) (name name' : String) (key : Nat)
    (h : r.key? name = some key) (h' : r.key? name' = some key) : name = name' := by
  obtain ⟨stream, hstream, hname, _⟩ := hs.named name key h
  obtain ⟨stream', hstream', hname', _⟩ := hs.named name' key h'
  obtain rfl : stream = stream' := Option.some.inj (hstream.symm.trans hstream')
  exact hname.symm.trans hname'

theorem ids_perform (r : Registry) (key now : Nat) (op : Op)
    (h : ∀ key stream, r.stream? key = some stream → stream.IdsBelow) (k : Nat)
    (stream : EventStream) (hstream : (r.perform key now op).stream? k = some stream) :
    stream.IdsBelow := by
  rw [stream?_perform] at hstream
  by_cases hkey : k = key
  · rw [if_pos hkey, Option.map_eq_some_iff] at hstream
    obtain ⟨old, hold, rfl⟩ := hstream
    exact (h k old hold).perform now op
  · rw [if_neg hkey] at hstream
    exact h k stream hstream

/-- A stream may only be ended when no name leads to it. -/
theorem Sound.perform {r : Registry} (hs : r.Sound) (key now : Nat) (op : Op)
    (hop : op.isFinal = false ∨ ∀ name, r.key? name ≠ some key) :
    (r.perform key now op).Sound := by
  constructor
  · intro name k hk
    obtain ⟨stream, hstream, hname, hremoved⟩ := hs.named name k hk
    rw [stream?_perform, hstream]
    by_cases hkey : k = key
    · subst hkey
      rw [if_pos rfl]
      rcases hop with hop | hop
      · exact ⟨_, rfl, (stream.perform_identity now op).1.trans hname,
          (stream.perform_removed now op hop).trans hremoved⟩
      · exact absurd hk (hop name)
    · rw [if_neg hkey]
      exact ⟨stream, rfl, hname, hremoved⟩
  · exact r.ids_perform key now op hs.ids

theorem Sound.forget {r : Registry} (hs : r.Sound) (name : String) : (r.forget name).Sound := by
  refine ⟨?_, hs.ids⟩
  intro n key hkey
  rw [key?_forget] at hkey
  split at hkey
  · cases hkey
  · exact hs.named n key hkey

/-- A stream that has lost its name can be ended. -/
theorem Sound.forget_perform {r : Registry} (hs : r.Sound) (name : String) (key now : Nat)
    (op : Op) (hkey : r.key? name = some key) : ((r.forget name).perform key now op).Sound := by
  apply (hs.forget name).perform key now op
  right
  intro n hn
  rw [key?_forget] at hn
  split at hn
  · cases hn
  · next hne => exact hne (hs.key_inj n name key hn hkey)

theorem Sound.remove {r : Registry} (hs : r.Sound) (name : String) : (r.remove name).1.Sound := by
  unfold Registry.remove
  cases hkey : r.key? name with
  | none => exact hs
  | some key => exact hs.forget_perform name key 0 .remove hkey

theorem Sound.releaseIfIdle {r : Registry} (hs : r.Sound) (key : Nat) :
    (r.releaseIfIdle key).1.Sound := by
  rcases r.releaseIfIdle_cases key 0 with hsame | ⟨stream, _, hkey, hreleased⟩
  · rw [hsame]
    exact hs
  · rw [hreleased]
    exact hs.forget_perform stream.name key 0 .closeIfIdle hkey

/-- What an insertion gives: the name leads to `key`, and all else is as it was. -/
structure Inserted (r : Registry) (name : String) (auto : Bool) (r' : Registry) (key : Nat) :
    Prop where
  key_eq : r'.key? name = some key
  others : ∀ n, n ≠ name → r'.key? n = r.key? n
  streams : ∀ k stream, r.stream? k = some stream → r'.stream? k = some stream
  settings : r'.settings = r.settings
  fresh : r.key? name = some key ∨
    r.key? name = none ∧ r'.stream? key = some (.new name r.settings auto)
  unused : r.key? name = none → r.stream? key = none
  only : ∀ k stream, r'.stream? k = some stream → r.stream? k = some stream ∨
    r.stream? k = none ∧ k = key ∧ stream = .new name r.settings auto
  sound : r.Sound → r'.Sound

theorem inserted_of_key? (r : Registry) (name : String) (auto : Bool) (key : Nat)
    (h : r.key? name = some key) : r.Inserted name auto r key :=
  ⟨h, fun _ _ => rfl, fun _ _ h => h, rfl, Or.inl h,
    fun hnone => absurd (h.symm.trans hnone) (Option.some_ne_none key), fun _ _ h => Or.inl h, id⟩

theorem Inserted.extends {r r' : Registry} {name : String} {auto : Bool} {key : Nat}
    (h : r.Inserted name auto r' key) : r.Extends r' :=
  fun k stream hstream => ⟨stream, h.streams k stream hstream, Nat.le_refl _⟩

/-- A name that leads somewhere still leads there. -/
theorem Inserted.key?_of_some {r r' : Registry} {name : String} {auto : Bool} {key : Nat}
    (h : r.Inserted name auto r' key) {n : String} {k : Nat} (hk : r.key? n = some k) :
    r'.key? n = some k := by
  by_cases hn : n = name
  · subst hn
    rcases h.fresh with hkey | ⟨hnone, _⟩
    · exact h.key_eq.trans (hkey.symm.trans hk)
    · cases hnone.symm.trans hk
  · exact (h.others n hn).trans hk

theorem inserted_insert (r : Registry) (name : String) (auto : Bool) :
    r.Inserted name auto (r.insert name auto).1 (r.insert name auto).2 := by
  rcases r.insert_cases name auto with ⟨key, hkey, hinsert⟩ | ⟨hkey, hinsert⟩
  · rw [hinsert]
    exact r.inserted_of_key? name auto key hkey
  · let r' : Registry :=
      { r with
        objects := r.objects ++ [.new name r.settings auto]
        names := r.names ++ [(name, r.objects.length)] }
    have hnew : r'.stream? r.objects.length = some (.new name r.settings auto) := by
      simp only [r', stream?, List.getElem?_concat_length]
    have hold : ∀ k stream, r.stream? k = some stream → r'.stream? k = some stream := by
      intro k stream hstream
      exact (List.getElem?_append_left (List.getElem?_eq_some_iff.mp hstream).1).trans hstream
    have hothers : ∀ n, n ≠ name → r'.key? n = r.key? n := by
      intro n hn
      simp only [r', key?, List.lookup_append, List.lookup_cons, List.lookup_nil,
        beq_eq_false_iff_ne.mpr hn, Option.or_none]
    have hname : r'.key? name = some r.objects.length := by
      have hlookup : r.names.lookup name = none := hkey
      simp only [r', key?, List.lookup_append, hlookup, List.lookup_cons, beq_self_eq_true,
        Option.none_or]
    have hunused : r.stream? r.objects.length = none :=
      List.getElem?_eq_none_iff.mpr (Nat.le_refl _)
    have honly : ∀ k stream, r'.stream? k = some stream → r.stream? k = some stream ∨
        r.stream? k = none ∧ k = r.objects.length ∧ stream = .new name r.settings auto := by
      intro k stream hstream
      by_cases hk : k < r.objects.length
      · exact Or.inl ((List.getElem?_append_left hk).symm.trans hstream)
      · have hlength := (List.getElem?_eq_some_iff.mp hstream).1
        rw [List.length_append, List.length_singleton] at hlength
        obtain rfl : k = r.objects.length := by omega
        exact Or.inr ⟨hunused, rfl, Option.some.inj (hstream.symm.trans hnew)⟩
    rw [hinsert]
    refine ⟨hname, hothers, hold, rfl, Or.inr ⟨hkey, hnew⟩, fun _ => hunused, honly,
      fun hs => ⟨?_, ?_⟩⟩
    · intro n k hk
      by_cases hn : n = name
      · rw [hn] at hk
        obtain rfl : r.objects.length = k := Option.some.inj (hname.symm.trans hk)
        exact ⟨_, hnew, hn.symm, rfl⟩
      · rw [show _ = _ from hothers n hn] at hk
        obtain ⟨stream, hstream, hrest⟩ := hs.named n k hk
        exact ⟨stream, hold k stream hstream, hrest⟩
    · intro k stream hstream
      rcases honly k stream hstream with hstream | ⟨_, _, rfl⟩
      · exact hs.ids k stream hstream
      · exact fun _ _ => rfl

theorem Inserted.exists_stream {r r' : Registry} {name : String} {auto : Bool} {key : Nat}
    (h : r.Inserted name auto r' key) (hs : r.Sound) :
    ∃ stream, r'.stream? key = some stream ∧ stream.removed = false := by
  obtain ⟨stream, hstream, _, hremoved⟩ := (h.sound hs).named name key h.key_eq
  exact ⟨stream, hstream, hremoved⟩

/-- What the connection of one subscriber can do: it takes events, leaves its stream and, where
streams are released, ends one that nobody else is attached to. -/
inductive Served (key id : Nat) (releases : Bool) (r : Registry) : Registry → Prop
  | refl : Served key id releases r r
  | own {r' : Registry} (h : Served key id releases r r') (now : Nat) (op : Op)
      (hop : op ∈ [.receive id, .unsubscribe id, .drop id]) :
      Served key id releases r (r'.perform key now op)
  | release {r' : Registry} (h : Served key id releases r r') (hreleases : releases = true) :
      Served key id releases r (r'.releaseIfIdle key).1

theorem Served.trans {r r' r'' : Registry} {key id : Nat} {releases : Bool}
    (h : r.Served key id releases r') (h' : r'.Served key id releases r'') :
    r.Served key id releases r'' := by
  induction h' with
  | refl => exact h
  | own _ now op hop ih => exact ih.own now op hop
  | release _ hreleases ih => exact ih.release hreleases

theorem served_receive (r : Registry) (key id : Nat) (releases : Bool) :
    r.Served key id releases (r.receive key id).1 := by
  cases hstream : r.stream? key with
  | none =>
    simp only [receive, hstream]
    exact .refl
  | some stream =>
    rw [r.receive_eq key id 0 stream hstream]
    exact .own .refl 0 (.receive id) (by simp)

theorem extends_releaseIfIdle (r : Registry) (key : Nat) :
    r.Extends (r.releaseIfIdle key).1 := by
  rcases r.releaseIfIdle_cases key 0 with hsame | ⟨stream, _, _, hreleased⟩
  · rw [hsame]
    exact .refl r
  · rw [hreleased]
    exact (r.forget stream.name).extends_perform key 0 .closeIfIdle

theorem extends_remove (r : Registry) (name : String) : r.Extends (r.remove name).1 := by
  unfold remove
  cases r.key? name with
  | none => exact .refl r
  | some key => exact (r.forget name).extends_perform key 0 .remove

theorem Served.extends {r r' : Registry} {key id : Nat} {releases : Bool}
    (h : r.Served key id releases r') : r.Extends r' := by
  induction h with
  | refl => exact .refl r
  | own h now op hop ih => exact ih.trans (extends_perform _ key now op)
  | release h hreleases ih => exact ih.trans (extends_releaseIfIdle _ key)

theorem Served.sound {r r' : Registry} {key id : Nat} {releases : Bool}
    (h : r.Served key id releases r') (hs : r.Sound) : r'.Sound := by
  induction h with
  | refl => exact hs
  | own h now op hop ih =>
    apply ih.perform key now op
    left
    simp only [List.mem_cons, List.not_mem_nil, or_false] at hop
    rcases hop with rfl | rfl | rfl <;> rfl
  | release h hreleases ih => exact ih.releaseIfIdle key

/-- The end of a connection makes no stream. -/
theorem Served.unused {r r' : Registry} {key id : Nat} {releases : Bool}
    (h : r.Served key id releases r') (k : Nat) (hnone : r.stream? k = none) :
    r'.stream? k = none := by
  induction h with
  | refl => exact hnone
  | @own r' _ now op _ ih => exact r'.stream?_perform_eq_none key k now op ih
  | @release r' _ _ ih =>
    rcases r'.releaseIfIdle_cases key 0 with hsame | ⟨stream, _, _, hreleased⟩
    · rw [hsame]
      exact ih
    · rw [hreleased]
      exact (r'.forget stream.name).stream?_perform_eq_none key k 0 .closeIfIdle ih

def removePair (r : Registry) (pair : String × Nat) : Registry :=
  (r.modify pair.2 .remove).forget pair.1

theorem key?_foldl_removePair (pairs : List (String × Nat)) (r : Registry) (name : String)
    (h : r.key? name = none ∨ name ∈ pairs.map (·.1)) :
    (pairs.foldl removePair r).key? name = none := by
  induction pairs generalizing r with
  | nil => simpa using h
  | cons pair rest ih =>
    apply ih
    have hkey : (r.removePair pair).key? name = if name = pair.1 then none else r.key? name :=
      (r.modify pair.2 .remove).key?_forget pair.1 name
    rw [hkey]
    by_cases hname : name = pair.1
    · rw [if_pos hname]
      exact Or.inl rfl
    · rw [if_neg hname]
      simpa [hname] using h

theorem foldl_removePair_unused (pairs : List (String × Nat)) (r : Registry) (key : Nat)
    (hnone : r.stream? key = none) : (pairs.foldl removePair r).stream? key = none := by
  induction pairs generalizing r with
  | nil => exact hnone
  | cons pair rest ih =>
    exact ih (r.removePair pair) (r.stream?_perform_eq_none pair.2 key 0 .remove hnone)

theorem mem_names_of_key? (r : Registry) (name : String) (key : Nat)
    (hkey : r.key? name = some key) : key ∈ r.names.map (·.2) := by
  obtain ⟨before, after, hnames, _⟩ := List.lookup_eq_some_iff.mp hkey
  rw [hnames]
  simp

/-- Of the streams of some pairs none is left that is not removed. -/
theorem stream?_foldl_removePair (pairs : List (String × Nat)) (r : Registry) (key : Nat)
    (stream : EventStream) (hstream : (pairs.foldl removePair r).stream? key = some stream) :
    stream.removed = true ∨ key ∉ pairs.map (·.2) ∧ r.stream? key = some stream := by
  induction pairs generalizing r with
  | nil => exact Or.inr ⟨List.not_mem_nil, hstream⟩
  | cons pair rest ih =>
    rcases ih (r.removePair pair) hstream with hremoved | ⟨hout, hbefore⟩
    · exact Or.inl hremoved
    · have hperformed : (r.perform pair.2 0 .remove).stream? key = some stream := hbefore
      rw [stream?_perform] at hperformed
      by_cases hkey : key = pair.2
      · left
        rw [if_pos hkey, Option.map_eq_some_iff] at hperformed
        obtain ⟨old, _, rfl⟩ := hperformed
        rfl
      · right
        rw [if_neg hkey] at hperformed
        refine ⟨?_, hperformed⟩
        rw [List.map_cons, List.mem_cons]
        rintro (heq | hmem)
        · exact hkey heq
        · exact hout hmem

theorem extends_foldl_removePair (pairs : List (String × Nat)) (r : Registry) :
    r.Extends (pairs.foldl removePair r) := by
  induction pairs generalizing r with
  | nil => exact .refl r
  | cons pair rest ih => exact (r.extends_perform pair.2 0 .remove).trans (ih (r.removePair pair))

theorem extends_removeAll (r : Registry) : r.Extends r.removeAll :=
  extends_foldl_removePair r.names r

theorem key?_removeAll (r : Registry) (name : String) : r.removeAll.key? name = none := by
  apply key?_foldl_removePair r.names r name
  cases hkey : r.key? name with
  | none => exact Or.inl rfl
  | some key =>
    obtain ⟨before, after, hnames, _⟩ := List.lookup_eq_some_iff.mp hkey
    right
    rw [hnames]
    simp

theorem Sound.removeAll {r : Registry} (hs : r.Sound) : r.removeAll.Sound := by
  constructor
  · intro name key hkey
    cases (key?_removeAll r name).symm.trans hkey
  · -- Each of the streams is only ever ended, which gives no id back.
    have hids : ∀ (pairs : List (String × Nat)) (r : Registry),
        (∀ key stream, r.stream? key = some stream → stream.IdsBelow) →
        ∀ key stream, (pairs.foldl removePair r).stream? key = some stream → stream.IdsBelow := by
      intro pairs
      induction pairs with
      | nil => exact fun _ h => h
      | cons pair rest ih =>
        intro r h
        exact ih (r.removePair pair) (ids_perform r pair.2 0 .remove h)
    exact hids r.names r hs.ids

end EventBroker.Registry
