import EventBroker.Proofs.Registry.Part
import EventBroker.Proofs.Server.Seats

/-!
What an operation of a server is confined to. An operation that is addressed to a name touches
the streams of this name alone, makes calls of hooks for it alone, and leaves the connections of
other names as they are. A connection belongs to the name that it was asked for under, also when
its stream has been removed and another one has the name.
-/
namespace EventBroker

def HookCall.name : HookCall → String
  | .subscribe name _ | .unsubscribe name _ => name

namespace Registry

/-- The connection of a subscriber touches the streams of the name of its stream alone. -/
theorem Served.touches {r r' : Registry} {key id : Nat} {releases : Bool} {n : String}
    (h : r.Served key id releases r') (hkey : r.titles[key]? = some n) : r.Touches n r' := by
  induction h with
  | refl => exact .refl
  | own _ now op _ ih =>
    exact ih.perform key now op (titles_of_grow ih.titles_grow hkey)
  | release _ _ ih =>
    exact ih.trans
      (touches_releaseIfIdle _ n key (titles_of_grow ih.titles_grow hkey))

end Registry

namespace Server

structure Filed (made : List String) (s : Server) : Prop where
  sound : s.Sound
  labelled : s.registry.Labelled
  next : s.nextConnection = made.length
  attached : ∀ number c, s.connection? number = some c →
    ∃ n, made[number]? = some n ∧ s.registry.titles[c.stream]? = some n

/-- What an operation addressed to a name leaves as it is, and the names of the connections that
it makes. -/
structure Confined (n : String) (made more : List String) (s s' : Server) : Prop where
  config : s'.config = s.config
  now : s'.now = s.now
  stopped : s'.stopped = s.stopped
  hooked : s'.hooked = s.hooked
  registry : s.registry.Touches n s'.registry
  calls : ∃ calls, s'.calls = s.calls ++ calls ∧ ∀ call ∈ calls, call.name = n
  next : s'.nextConnection = s.nextConnection + more.length
  names : ∀ m ∈ more, m = n
  others : ∀ number m, made[number]? = some m → m ≠ n → s'.connection? number = s.connection? number
  attached : ∀ number c', s'.connection? number = some c' →
    (∃ c, s.connection? number = some c ∧ c'.stream = c.stream) ∨
      number = s.nextConnection ∧ more = [n] ∧ s'.registry.titles[c'.stream]? = some n

theorem Filed.confined {made more : List String} {n : String} {s s' : Server} (hs : s.Filed made)
    (hc : s.Confined n made more s') (hsound : s'.Sound) : s'.Filed (made ++ more) := by
  refine ⟨hsound, hc.registry.labelled hs.labelled, ?_, ?_⟩
  · rw [hc.next, hs.next, List.length_append]
  · intro number c' hc'
    rcases hc.attached number c' hc' with ⟨c, hfound, hsame⟩ | ⟨hnumber, hmore, hkey⟩
    · obtain ⟨m, hm, hkey⟩ := hs.attached number c hfound
      refine ⟨m, ?_, ?_⟩
      · rw [List.getElem?_append_left (List.getElem?_eq_some_iff.mp hm).1]
        exact hm
      · rw [hsame]
        exact Registry.titles_of_grow hc.registry.titles_grow hkey
    · refine ⟨n, ?_, hkey⟩
      rw [hnumber, hs.next, hmore, List.getElem?_concat_length]

/-- A change of the registry alone. -/
theorem confined_registry (s : Server) (n : String) (made : List String) (r : Registry)
    (hr : s.registry.Touches n r) : s.Confined n made [] { s with registry := r } :=
  ⟨rfl, rfl, rfl, rfl, hr, ⟨[], (List.append_nil _).symm, nofun⟩, rfl, nofun, fun _ _ _ _ => rfl,
    fun _ c hc => Or.inl ⟨c, hc, rfl⟩⟩

/-- What a look-up that may create a stream comes to. -/
theorem resolve_outcome (s : Server) (hs : s.registry.Labelled) (n : String) :
    ∃ r key?, s.registry.Touches n r ∧ (∀ key, key? = some key → r.titles[key]? = some n) ∧
      s.resolve n = ({ s with registry := r }, key?) := by
  unfold resolve
  cases s.config.autoStream with
  | true =>
    refine ⟨_, _, Registry.Touches.refl.insert true, ?_, rfl⟩
    intro key hkey
    have heq : (s.registry.insert n true).2 = key := Option.some.inj hkey
    rw [← heq]
    exact hs.titles_insert n true
  | false => exact ⟨_, _, .refl, fun key => hs.titles_of_key?, rfl⟩

theorem publishOn_fst (s : Server) (key : Nat) (e : Event) :
    (s.publishOn key e).1 = { s with registry := s.registry.perform key s.now (.publish e) } := by
  rw [publishOn, ← Registry.publish_fst_eq]

theorem confined_publish (s : Server) (hs : s.registry.Labelled) (n : String)
    (made : List String) (e : Event) : s.Confined n made [] (s.publish n e).1 := by
  obtain ⟨r, key?, htouches, htitles, hresolve⟩ := s.resolve_outcome hs n
  rw [publish, hresolve]
  cases key? with
  | none => exact s.confined_registry n made r htouches
  | some key =>
    simp only [publishOn_fst]
    exact s.confined_registry n made _ (htouches.perform key s.now _ (htitles key rfl))

/-- What an attach comes to. -/
theorem attach_outcome (s : Server) (hs : s.Sound) (hlabelled : s.registry.Labelled) (n : String)
    (lastEventId : Bytes) :
    ∃ r, s.registry.Touches n r ∧
      ((∃ fault, s.attach n lastEventId = ({ s with registry := r }, .error fault)) ∨
        ∃ c, r.titles[c.stream]? = some n ∧
          s.attach n lastEventId = (s.opened n r c, .ok s.nextConnection)) := by
  obtain ⟨r, key?, htouches, htitles, hresolve⟩ := s.resolve_outcome hlabelled n
  rw [s.attach_eq_attachTo hs.registry n lastEventId, hresolve]
  cases key? with
  | none => exact ⟨r, htouches, Or.inl ⟨_, rfl⟩⟩
  | some key =>
    have hkey := htitles key rfl
    obtain ⟨stream, hstream, _⟩ := (r.titles_eq_some_iff key n).mp hkey
    refine ⟨r.perform key s.now (.subscribe lastEventId), htouches.perform key s.now _ hkey, ?_⟩
    simp only [attachTo_eq { s with registry := r } n key lastEventId stream hstream]
    cases (stream.subscribe s.now lastEventId).2 with
    | error fault => exact Or.inl ⟨fault, rfl⟩
    | ok answer =>
      right
      refine ⟨{ stream := key, subscriber := answer.1, replay := answer.2.map (·.event) }, ?_, rfl⟩
      rw [Registry.titles_perform]
      exact hkey

theorem name_of_heard (s : Server) (made : List HookCall) (n : String)
    (hmade : ∀ call ∈ made, call.name = n) : ∀ call ∈ s.heard made, call.name = n := by
  intro call hcall
  unfold heard at hcall
  split at hcall
  · exact hmade call hcall
  · cases hcall

theorem confined_opened (s : Server) (n : String) (made : List String) (hs : s.Filed made)
    (r : Registry) (c : Connection) (hr : s.registry.Touches n r)
    (hc : r.titles[c.stream]? = some n) : s.Confined n made [n] (s.opened n r c) := by
  have hregistry : (s.opened n r c).registry = r := by rw [opened, call_eq]
  have hcalls : ∀ call ∈ s.heard [.subscribe n c.subscriber], call.name = n :=
    s.name_of_heard _ n (List.forall_mem_singleton.mpr rfl)
  refine ⟨?_, ?_, ?_, ?_, ?_, ⟨_, calls_call _ _, hcalls⟩, ?_, ?_, ?_, ?_⟩
  · rw [opened, call_eq]
  · rw [opened, call_eq]
  · rw [opened, call_eq]
  · rw [opened, call_eq]
  · rw [hregistry]
    exact hr
  · rw [opened, call_eq]
    rfl
  · exact List.forall_mem_singleton.mpr rfl
  · intro number m hm _
    have hlt := (List.getElem?_eq_some_iff.mp hm).1
    rw [connection?_opened, if_neg (by rw [hs.next]; omega), Option.or_none]
  · intro number c' hc'
    rw [connection?_opened, Option.or_eq_some_iff] at hc'
    rcases hc' with hold | ⟨_, hnew⟩
    · exact Or.inl ⟨c', hold, rfl⟩
    · split at hnew
      · next hnumber =>
        obtain rfl := Option.some.inj hnew
        right
        rw [hregistry]
        exact ⟨hnumber, rfl, hc⟩
      · cases hnew

/-- The calls of a connection that goes. -/
theorem calls_disconnect (s : Server) (number : Nat) (c : Connection) (n : String)
    (hc : s.connection? number = some c) (hkey : s.registry.titles[c.stream]? = some n) :
    (s.disconnect number).calls = s.calls ++ s.heard [.unsubscribe n c.subscriber] ∧
      (s.disconnect number).hooked = s.hooked := by
  obtain ⟨stream, hstream, rfl⟩ := (s.registry.titles_eq_some_iff c.stream n).mp hkey
  have hturns := s.turns_disconnect s rfl rfl number c stream hc hc hstream
  exact ⟨hturns.calls, hturns.hooked⟩

theorem Attended.confined {s s' : Server} {made : List String} {number : Nat} {c : Connection}
    (h : s.Attended number c s') (hc : s.connection? number = some c)
    (n : String) (hn : made[number]? = some n) (hkey : s.registry.titles[c.stream]? = some n)
    (hhooked : s'.hooked = s.hooked)
    (hcalls : ∃ calls, s'.calls = s.calls ++ calls ∧ ∀ call ∈ calls, call.name = n) :
    s.Confined n made [] s' := by
  refine ⟨h.config, h.now, h.stopped, hhooked, h.served.touches hkey, hcalls,
    h.nextConnection, nofun, ?_, ?_⟩
  · intro k m hm hne
    apply h.others
    rintro rfl
    exact hne (Option.some.inj (hm.symm.trans hn))
  · intro k c' hc'
    left
    by_cases hk : k = number
    · subst hk
      exact ⟨c, hc, (h.own c' hc').1⟩
    · rw [h.others k hk] at hc'
      exact ⟨c', hc', rfl⟩

theorem confined_disconnect (s : Server) (made : List String) (hs : s.Filed made) (number : Nat)
    (n : String) (hn : made[number]? = some n) : s.Confined n made [] (s.disconnect number) := by
  cases hc : s.connection? number with
  | none =>
    have hsame : s.disconnect number = s := by rw [disconnect, hc]
    rw [hsame]
    exact s.confined_registry n made s.registry .refl
  | some c =>
    obtain ⟨m, hm, hkey⟩ := hs.attached number c hc
    obtain rfl : m = n := Option.some.inj (hm.symm.trans hn)
    obtain ⟨hcalls, hhooked⟩ := s.calls_disconnect number c m hc hkey
    refine (s.attended_disconnect number c hc).confined hc m hn hkey hhooked ⟨_, hcalls, ?_⟩
    exact s.name_of_heard _ m (List.forall_mem_singleton.mpr rfl)

def spoken (s : Server) (number : Nat) (c : Connection) : Server :=
  ({ s with registry := (s.nextFrame c).1 } : Server).setConnection number (s.nextFrame c).2.1

/-- A connection that has nothing more to say is dropped. -/
theorem poll_eq (s : Server) (number : Nat) (c : Connection) (hc : s.connection? number = some c) :
    s.poll number =
      (if (s.nextFrame c).2.2 = .ended then (s.spoken number c).disconnect number
        else s.spoken number c, (s.nextFrame c).2.2) := by
  by_cases hended : (s.nextFrame c).2.2 = .ended
  · rw [s.poll_of_ended number c _ _ hc (by rw [← hended]), if_pos hended, hended]
    rfl
  · rw [s.poll_of_ne_ended number c _ _ _ hc rfl hended, if_neg hended]
    rfl

theorem attended_spoken (s : Server) (number : Nat) (c : Connection) :
    s.Attended number c (s.spoken number c) :=
  s.attended_setConnection number c _ _ (s.nextFrame_served c).1 (s.nextFrame_served c).2

theorem confined_spoken (s : Server) (made : List String) (hs : s.Filed made) (number : Nat)
    (c : Connection) (hc : s.connection? number = some c) (n : String)
    (hn : made[number]? = some n) : s.Confined n made [] (s.spoken number c) := by
  obtain ⟨m, hm, hkey⟩ := hs.attached number c hc
  obtain rfl : m = n := Option.some.inj (hm.symm.trans hn)
  exact (s.attended_spoken number c).confined hc m hn hkey rfl
    ⟨[], (List.append_nil _).symm, nofun⟩

theorem Filed.spoken {s : Server} {made : List String} (hs : s.Filed made) (number : Nat)
    (c : Connection) (hc : s.connection? number = some c) : (s.spoken number c).Filed made := by
  obtain ⟨n, hn, _⟩ := hs.attached number c hc
  have hspoken := hs.confined (s.confined_spoken made hs number c hc n hn)
    (hs.sound.attended number c hc (s.attended_spoken number c))
  rw [List.append_nil] at hspoken
  exact hspoken

theorem Confined.trans {n : String} {made : List String} {s s' s'' : Server}
    (h : s.Confined n made [] s') (h' : s'.Confined n made [] s'') : s.Confined n made [] s'' := by
  obtain ⟨calls, hcalls, hnames⟩ := h.calls
  obtain ⟨calls', hcalls', hnames'⟩ := h'.calls
  refine ⟨h'.config.trans h.config, h'.now.trans h.now, h'.stopped.trans h.stopped,
    h'.hooked.trans h.hooked, h.registry.trans h'.registry, ⟨calls ++ calls', ?_, ?_⟩,
    h'.next.trans h.next, nofun, ?_, ?_⟩
  · rw [hcalls', hcalls, List.append_assoc]
  · intro call hcall
    rcases List.mem_append.mp hcall with hfirst | hsecond
    · exact hnames call hfirst
    · exact hnames' call hsecond
  · exact fun number m hm hne => (h'.others number m hm hne).trans (h.others number m hm hne)
  · intro number c'' hc''
    rcases h'.attached number c'' hc'' with ⟨c', hc', hsame'⟩ | ⟨_, hmore, _⟩
    · rcases h.attached number c' hc' with ⟨c, hc, hsame⟩ | ⟨_, hmore, _⟩
      · exact Or.inl ⟨c, hc, hsame'.trans hsame⟩
      · cases hmore
    · cases hmore

theorem confined_poll (s : Server) (made : List String) (hs : s.Filed made) (number : Nat)
    (n : String) (hn : made[number]? = some n) : s.Confined n made [] (s.poll number).1 := by
  cases hc : s.connection? number with
  | none =>
    have hsame : s.poll number = (s, .ended) := by rw [poll, hc]
    rw [hsame]
    exact s.confined_registry n made s.registry .refl
  | some c =>
    have hspoken := s.confined_spoken made hs number c hc n hn
    rw [s.poll_eq number c hc]
    simp only
    split
    · exact hspoken.trans (confined_disconnect _ made (hs.spoken number c hc) number n hn)
    · exact hspoken

/-- The name that an operation is addressed to; a connection goes by the name it was made for. -/
def Op.addressee (made : List String) : Op → Option String
  | .createStream n | .removeStream n | .publish n _ | .attach n _ => some n
  | .poll number | .disconnect number => made[number]?
  | .advance _ | .stop => none

def Op.makes (s : Server) : Op → List String
  | .attach n lastEventId =>
    match (s.attach n lastEventId).2 with
    | .ok _ => [n]
    | .error _ => []
  | .createStream _ | .removeStream _ | .publish _ _ | .poll _ | .disconnect _ | .advance _
  | .stop => []

/-- An operation is confined to the name that it is addressed to. -/
theorem confined_step (s : Server) (made : List String) (hs : s.Filed made) (op : Op) (n : String)
    (haddressee : op.addressee made = some n) : s.Confined n made (op.makes s) (s.step op) := by
  cases op with
  | createStream m =>
    obtain rfl : m = n := Option.some.inj haddressee
    exact s.confined_registry m made _ (Registry.Touches.refl.insert false)
  | removeStream m =>
    obtain rfl : m = n := Option.some.inj haddressee
    exact s.confined_registry m made _ (hs.labelled.touches_remove m)
  | publish m e =>
    obtain rfl : m = n := Option.some.inj haddressee
    exact s.confined_publish hs.labelled m made e
  | attach m lastEventId =>
    obtain rfl : m = n := Option.some.inj haddressee
    obtain ⟨r, htouches, ⟨fault, hattach⟩ | ⟨c, hkey, hattach⟩⟩ :=
      s.attach_outcome hs.sound hs.labelled m lastEventId
    · rw [step, Op.makes, hattach]
      exact s.confined_registry m made r htouches
    · rw [step, Op.makes, hattach]
      exact s.confined_opened m made hs r c htouches hkey
  | poll number => exact s.confined_poll made hs number n haddressee
  | disconnect number => exact s.confined_disconnect made hs number n haddressee
  | advance | stop => cases haddressee

/-- A poll or the end of a connection that was never made does nothing. -/
theorem Filed.step_of_unmade {s : Server} {made : List String} (hs : s.Filed made) (number : Nat)
    (hnumber : made[number]? = none) (op : Op) (hop : op = .poll number ∨ op = .disconnect number) :
    s.step op = s := by
  rcases s.step_connection number op hop with ⟨_, hsame⟩ | ⟨c, hc, _⟩
  · exact hsame
  · obtain ⟨n, hn, _⟩ := hs.attached number c hc
    cases hnumber.symm.trans hn

theorem Filed.step {s : Server} {made : List String} (hs : s.Filed made) (op : Op) :
    (s.step op).Filed (made ++ op.makes s) := by
  have hsound := hs.sound.step op
  cases haddressee : op.addressee made with
  | some n => exact hs.confined (s.confined_step made hs op n haddressee) hsound
  | none =>
    cases op with
    | poll number =>
      rw [hs.step_of_unmade number haddressee _ (Or.inl rfl), Op.makes, List.append_nil]
      exact hs
    | disconnect number =>
      rw [hs.step_of_unmade number haddressee _ (Or.inr rfl), Op.makes, List.append_nil]
      exact hs
    | advance d =>
      rw [Op.makes, List.append_nil]
      exact ⟨hsound, hs.labelled, hs.next, hs.attached⟩
    | stop =>
      rw [Op.makes, List.append_nil]
      refine ⟨hsound, hs.labelled.removeAll, hs.next, ?_⟩
      intro number c hc
      obtain ⟨n, hn, hkey⟩ := hs.attached number c hc
      have htitles : (s.step .stop).registry.titles = s.registry.titles :=
        Registry.titles_foldl_removePair s.registry.names s.registry
      exact ⟨n, hn, by rw [htitles]; exact hkey⟩
    | createStream | removeStream | publish | attach => cases haddressee

theorem filed_ofConfig (config : ServerConfig) (hooked : Bool) :
    ({ ofConfig config with hooked } : Server).Filed [] := by
  have hs := sound_ofConfig config
  exact ⟨hs.of_extends _ hs.registry (.refl _) _ rfl rfl rfl, nofun, rfl, nofun⟩

end Server

end EventBroker
