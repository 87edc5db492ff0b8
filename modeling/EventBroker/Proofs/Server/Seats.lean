import EventBroker.Proofs.Server.Release

/-!
The seats of a server. Every open connection has a number of its own and holds a seat, which
is a subscriber of a stream object. An operation adds at most one seat, with a call of the hook
that tells of it, or gives up at most one, again with a call for the same name and
subscriber; it never does both. Whoever is registered on a stream holds a seat on it, and the
seats on a stream that is not removed are registered, so there are as many of the one as of
the other.
-/
namespace EventBroker

section Lists

variable {α : Type}

theorem lookup_of_mem (pairs : List (Nat × α)) (hdistinct : (pairs.map (·.1)).Nodup) (k : Nat)
    (a : α) (hmem : (k, a) ∈ pairs) : pairs.lookup k = some a := by
  induction pairs with
  | nil => cases hmem
  | cons pair rest ih =>
    obtain ⟨m, b⟩ := pair
    rw [List.map_cons, List.nodup_cons] at hdistinct
    rw [List.lookup_cons]
    rcases List.mem_cons.mp hmem with heq | hrest
    · obtain ⟨rfl, rfl⟩ := Prod.mk.inj heq
      rw [beq_self_eq_true]
    · have hne : k ≠ m := by
        rintro rfl
        exact hdistinct.1 (List.mem_map.mpr ⟨(k, a), hrest, rfl⟩)
      rw [beq_eq_false_iff_ne.mpr hne]
      exact ih hdistinct.2 hrest

theorem mem_of_lookup (pairs : List (Nat × α)) (k : Nat) (a : α) (h : pairs.lookup k = some a) :
    (k, a) ∈ pairs := by
  obtain ⟨before, after, hpairs, _⟩ := List.lookup_eq_some_iff.mp h
  rw [hpairs]
  exact List.mem_append_right _ List.mem_cons_self

/-- An item is taken out by its key if keys are distinct. -/
theorem perm_cons_filter_ne (items : List α) (key : α → Nat) (hdistinct : (items.map key).Nodup)
    (a : α) (ha : a ∈ items) [DecidableEq α] :
    items.Perm (a :: items.filter fun b => key b != key a) := by
  have herase : items.erase a = items.filter fun b => key b != key a := by
    rw [(hdistinct.of_map key).erase_eq_filter]
    apply List.filter_congr
    intro b hb
    by_cases hba : b = a
    · rw [hba, bne_self_eq_false, bne_self_eq_false]
    · have hkey : key b ≠ key a := fun heq => hba (List.inj_on_of_nodup_map hdistinct hb ha heq)
      rw [bne_iff_ne.mpr hba, bne_iff_ne.mpr hkey]
  rw [← herase]
  exact List.perm_cons_erase ha

end Lists

namespace EventStream

theorem registered_of_becomes (s : EventStream) (id : Nat) (op : Op) (sub sub' : Subscription)
    (h : s.becomes id op sub = some sub') (hregistered : sub'.registered = true) :
    sub.registered = true := by
  cases op with
  | publish e =>
    obtain rfl := Option.some.inj h
    unfold Subscription.offer at hregistered
    split at hregistered
    · exact hregistered
    · split at hregistered <;> exact hregistered
  | unsubscribe j | receive j =>
    obtain rfl := Option.some.inj h
    split at hregistered
    · first | exact hregistered | cases hregistered
    · exact hregistered
  | drop j =>
    simp only [becomes] at h
    split at h
    · cases h
    · obtain rfl := Option.some.inj h
      exact hregistered
  | remove =>
    obtain rfl := Option.some.inj h
    cases hregistered
  | subscribe | advance | closeIfIdle =>
    obtain rfl := Option.some.inj h
    exact hregistered

/-- Nobody is registered by a step but the subscriber that it hands out. -/
theorem isRegistered_of_perform (s : EventStream) (now id : Nat) (op : Op)
    (h : (s.perform now op).isRegistered id = true) :
    s.isRegistered id = true ∨ ∃ lastSeen replay, op = .subscribe lastSeen ∧
      (s.subscribe now lastSeen).2 = .ok (id, replay) := by
  obtain ⟨sub, hsub, hregistered⟩ := (Option.any_eq_true _ _).mp h
  rw [subscription?_perform, Option.or_eq_some_iff] at hsub
  rcases hsub with hold | ⟨_, hnew⟩
  · left
    obtain ⟨old, hfound, hbecomes⟩ := Option.bind_eq_some_iff.mp hold
    rw [isRegistered, hfound, Option.any_some]
    exact s.registered_of_becomes id op old sub hbecomes hregistered
  · right
    cases op with
    | subscribe lastSeen =>
      refine ⟨lastSeen, ?_⟩
      simp only [newcomer] at hnew
      split at hnew
      · next new replay hok =>
        split at hnew
        · next hid => exact ⟨replay, rfl, by rw [hok, hid]⟩
        · cases hnew
      · cases hnew
    | _ => cases hnew

theorem IdsDistinct.isRegistered_iff {s : EventStream} (hs : s.IdsDistinct) (id : Nat) :
    s.isRegistered id = true ↔ id ∈ (s.subscriptions.filter (·.registered)).map (·.id) := by
  constructor
  · intro h
    obtain ⟨sub, hsub, hregistered⟩ := (Option.any_eq_true _ _).mp h
    refine List.mem_map.mpr ⟨sub, ?_, s.id_of_subscription? id sub hsub⟩
    exact List.mem_filter.mpr ⟨List.mem_of_find?_eq_some hsub, hregistered⟩
  · intro h
    obtain ⟨sub, hmem, rfl⟩ := List.mem_map.mp h
    obtain ⟨hsub, hregistered⟩ := List.mem_filter.mp hmem
    have hfound : s.subscription? sub.id = some sub := by
      cases hfind : s.subscription? sub.id with
      | none => exact absurd (beq_self_eq_true sub.id) (List.find?_eq_none.mp hfind sub hsub)
      | some other =>
        rw [hs.eq_of_id_eq (List.mem_of_find?_eq_some hfind) hsub
          (s.id_of_subscription? sub.id other hfind)]
    rw [isRegistered, hfound, Option.any_some, hregistered]

end EventStream

namespace Server

structure Seat where
  number : Nat
  stream : Nat
  subscriber : Nat
  deriving Repr, DecidableEq

def seats (s : Server) : List Seat := s.connections.map fun (n, c) => ⟨n, c.stream, c.subscriber⟩

def NumbersDistinct (s : Server) : Prop := (s.seats.map (·.number)).Nodup

theorem map_number_seats (s : Server) : s.seats.map (·.number) = s.connections.map (·.1) :=
  List.map_map

theorem NumbersDistinct.mem_seats_iff {s : Server} (hs : s.NumbersDistinct) (seat : Seat) :
    seat ∈ s.seats ↔ ∃ c, s.connection? seat.number = some c ∧ c.stream = seat.stream ∧
      c.subscriber = seat.subscriber := by
  rw [NumbersDistinct, map_number_seats] at hs
  constructor
  · intro hseat
    obtain ⟨⟨n, c⟩, hmem, rfl⟩ := List.mem_map.mp hseat
    exact ⟨c, lookup_of_mem s.connections hs n c hmem, rfl, rfl⟩
  · rintro ⟨c, hc, hstream, hsubscriber⟩
    refine List.mem_map.mpr ⟨(seat.number, c), mem_of_lookup s.connections _ c hc, ?_⟩
    simp only [hstream, hsubscriber]

/-- What an operation makes of the seats: the connection whose seat it is about, if any, and the
calls of hooks that tell of it. -/
inductive Turnover (s s' : Server) : Option Nat → List HookCall → Prop
  | kept (hseats : s'.seats = s.seats) (hnext : s'.nextConnection = s.nextConnection) :
      Turnover s s' none []
  | opened (name : String) (key id : Nat)
      (hseats : s'.seats = s.seats ++ [⟨s.nextConnection, key, id⟩])
      (hnext : s'.nextConnection = s.nextConnection + 1)
      (hname : ∃ stream, s'.registry.stream? key = some stream ∧ stream.name = name) :
      Turnover s s' (some s.nextConnection) [.subscribe name id]
  | closed (number : Nat) (c : Connection) (stream : EventStream)
      (hc : s.connection? number = some c) (hstream : s.registry.stream? c.stream = some stream)
      (hseats : s'.seats = s.seats.filter fun seat => seat.number != number)
      (hregistry : s'.registry = (s.leave c).registry)
      (hnext : s'.nextConnection = s.nextConnection) :
      Turnover s s' (some number) [.unsubscribe stream.name c.subscriber]

def heard (s : Server) (made : List HookCall) : List HookCall := if s.hooked then made else []

theorem heard_nil (s : Server) : s.heard [] = [] := ite_self []

theorem calls_call (s : Server) (c : HookCall) : (s.call c).calls = s.calls ++ s.heard [c] := by
  unfold call heard
  split
  · rfl
  · exact (List.append_nil _).symm

theorem calls_leave (s : Server) (c : Connection) (stream : EventStream)
    (hstream : s.registry.stream? c.stream = some stream) :
    (s.leave c).calls = s.calls ++ s.heard [.unsubscribe stream.name c.subscriber] := by
  unfold leave
  rw [hstream]
  exact calls_call { s with registry := s.registry.modify c.stream (·.unsubscribe c.subscriber) } _

theorem seats_setConnection {s : Server} (hs : s.NumbersDistinct) (number : Nat)
    (c c' : Connection) (r : Registry) (hc : s.connection? number = some c)
    (hc' : c'.stream = c.stream ∧ c'.subscriber = c.subscriber) :
    (({ s with registry := r } : Server).setConnection number c').seats = s.seats := by
  rw [NumbersDistinct, map_number_seats] at hs
  simp only [seats, setConnection, List.map_map]
  apply List.map_congr_left
  rintro ⟨n, old⟩ hmem
  simp only [Function.comp_apply]
  split
  · next hn =>
    have hold : s.connection? n = some old := lookup_of_mem s.connections hs n old hmem
    rw [hn, hc, Option.some.injEq] at hold
    rw [hc'.1, hc'.2, hold]
  · rfl

theorem seats_filter (s : Server) (number : Nat) :
    ({ s with connections := s.connections.filter (·.1 != number) } : Server).seats =
      s.seats.filter fun seat => seat.number != number := by
  simp only [seats, List.filter_map]
  rfl

structure Turns (s s' : Server) (subject : Option Nat) (made : List HookCall) : Prop where
  turnover : Turnover s s' subject made
  calls : s'.calls = s.calls ++ s.heard made
  hooked : s'.hooked = s.hooked

/-- However a connection is dropped, its seat is given up and the hook is called for it. -/
theorem turns_disconnect (s s₁ : Server) (hsame : s₁ = { s with connections := s₁.connections })
    (hseats : s₁.seats = s.seats) (number : Nat) (c : Connection) (stream : EventStream)
    (hc : s.connection? number = some c) (hc₁ : s₁.connection? number = some c)
    (hstream : s.registry.stream? c.stream = some stream) :
    s.Turns (s₁.disconnect number) (some number) [.unsubscribe stream.name c.subscriber] := by
  have hstream₁ : s₁.registry.stream? c.stream = some stream := by
    rw [hsame]
    exact hstream
  rw [s₁.disconnect_eq number c hc₁]
  refine ⟨.closed number c stream hc hstream ?_ ?_ ?_, ?_, ?_⟩
  · rw [← hseats]
    exact s₁.seats_filter number
  · refine registry_leave_congr s s₁ c ?_ ?_ <;> rw [hsame]
  · rw [hsame]
  · refine (s₁.calls_leave c stream hstream₁).trans ?_
    rw [hsame]
    rfl
  · rw [hsame]

theorem turns_poll (s : Server) (hdistinct : s.NumbersDistinct) (number : Nat) (c : Connection)
    (stream : EventStream) (hc : s.connection? number = some c)
    (hstream : s.registry.stream? c.stream = some stream) :
    ∃ subject made, s.Turns (s.poll number).1 subject made := by
  by_cases hended : (s.nextFrame c).2.2 = .ended
  · -- The connection is first put back as it was.
    let s₁ := ({ s with registry := s.registry } : Server).setConnection number c
    have hc₁ : s₁.connection? number = some c := by
      rw [connection?_setConnection, if_pos rfl]
      exact congrArg (Option.map fun _ => c) hc
    rw [s.poll_of_ended number c c s.registry hc (s.nextFrame_of_ended c hended)]
    exact ⟨_, _, s.turns_disconnect s₁ rfl
      (seats_setConnection hdistinct number c c _ hc ⟨rfl, rfl⟩) number c stream hc hc₁ hstream⟩
  · rw [s.poll_of_ne_ended number c _ _ _ hc rfl hended]
    refine ⟨none, [], .kept ?_ rfl, ?_, rfl⟩
    · exact seats_setConnection hdistinct number c _ _ hc (s.nextFrame_served c).2
    · rw [heard_nil, List.append_nil]
      rfl

theorem seats_opened (s : Server) (name : String) (r : Registry) (c : Connection) :
    (s.opened name r c).seats = s.seats ++ [⟨s.nextConnection, c.stream, c.subscriber⟩] := by
  rw [opened, call_eq, seats, List.map_append]
  rfl

theorem turns_opened (s : Server) (name : String) (r : Registry) (c : Connection)
    (stream : EventStream) (hstream : r.stream? c.stream = some stream)
    (hname : stream.name = name) :
    s.Turns (s.opened name r c) (some s.nextConnection) [.subscribe name c.subscriber] := by
  refine ⟨.opened name c.stream c.subscriber (s.seats_opened name r c) ?_ ⟨stream, ?_, hname⟩,
    calls_call _ _, ?_⟩
  · rw [opened, call_eq]
  · rw [opened, call_eq]
    exact hstream
  · rw [opened, call_eq]

/-- An attach that succeeds opens a connection of a stream of the name. -/
theorem attach_opens (s : Server) (hs : s.registry.Sound) (name : String) (lastEventId : Bytes) :
    (∃ r fault, s.attach name lastEventId = ({ s with registry := r }, .error fault)) ∨
      ∃ r c stream, s.attach name lastEventId = (s.opened name r c, .ok s.nextConnection) ∧
        r.stream? c.stream = some stream ∧ stream.name = name := by
  rcases s.attach_cases hs name lastEventId with
    ⟨r, key, stream, hinserted, hstream, ⟨fault, hattach⟩ | ⟨subscriber, replay, _, hattach⟩⟩ |
      ⟨_, hattach⟩
  · exact Or.inl ⟨_, fault, hattach⟩
  · right
    obtain ⟨found, hfound, hname, _⟩ := (hinserted.sound hs).named name key hinserted.key_eq
    obtain rfl : found = stream := Option.some.inj (hfound.symm.trans hstream)
    refine ⟨_, _, found.perform s.now (.subscribe lastEventId), hattach, ?_, ?_⟩
    · rw [Registry.stream?_perform, if_pos rfl, hstream]
      rfl
    · exact (found.perform_identity s.now _).1.trans hname
  · exact Or.inl ⟨s.registry, _, hattach⟩

theorem turns_step (s : Server) (hs : s.Sound) (hdistinct : s.NumbersDistinct) (op : Op) :
    ∃ subject made, s.Turns (s.step op) subject made := by
  have hkept : ∀ r, ∃ subject made, s.Turns { s with registry := r } subject made :=
    fun r => ⟨none, [], .kept rfl rfl, by rw [heard_nil, List.append_nil], rfl⟩
  have hconnection : ∀ number, op = .poll number ∨ op = .disconnect number →
      ∃ subject made, s.Turns (s.step op) subject made := by
    intro number hop
    rcases s.step_connection number op hop with ⟨_, hsame⟩ | ⟨c, hc, _⟩
    · rw [hsame]
      exact hkept s.registry
    · obtain ⟨stream, hstream, _⟩ := hs.subscriber_lt number c hc
      rcases hop with rfl | rfl
      · exact s.turns_poll hdistinct number c stream hc hstream
      · exact ⟨_, _, s.turns_disconnect s rfl rfl number c stream hc hc hstream⟩
  cases op with
  | createStream name => exact hkept (s.registry.create name).1
  | removeStream name => exact hkept (s.registry.remove name).1
  | publish name e =>
    rcases s.publish_cases hs.registry name e with ⟨r, key, stream, _, _, hpublish⟩ | ⟨_, hpublish⟩
    · rw [step, hpublish]
      exact hkept _
    · rw [step, hpublish]
      exact hkept s.registry
  | attach name lastEventId =>
    rcases s.attach_opens hs.registry name lastEventId with
      ⟨r, fault, hattach⟩ | ⟨r, c, stream, hattach, hstream, hname⟩
    · rw [step, hattach]
      exact hkept r
    · rw [step, hattach]
      exact ⟨_, _, s.turns_opened name r c stream hstream hname⟩
  | poll number => exact hconnection number (Or.inl rfl)
  | disconnect number => exact hconnection number (Or.inr rfl)
  | advance d => exact ⟨none, [], .kept rfl rfl, by rw [heard_nil, List.append_nil]; rfl, rfl⟩
  | stop => exact ⟨none, [], .kept rfl rfl, by rw [heard_nil, List.append_nil]; rfl, rfl⟩

/-- A new connection takes a number that none has, and no other number is given out. -/
theorem NumbersDistinct.turnover {s s' : Server} (hdistinct : s.NumbersDistinct) (hs : s.Sound)
    {subject : Option Nat} {made : List HookCall} (h : Turnover s s' subject made) :
    s'.NumbersDistinct := by
  cases h with
  | kept hseats _ =>
    rw [NumbersDistinct, hseats]
    exact hdistinct
  | opened name key id hseats _ _ =>
    rw [NumbersDistinct, hseats, List.map_append, List.map_singleton, ← List.concat_eq_append,
      List.nodup_concat]
    refine ⟨?_, hdistinct⟩
    intro hmem
    obtain ⟨seat, hseat, hnumber⟩ := List.mem_map.mp hmem
    obtain ⟨c, hc, _⟩ := (hdistinct.mem_seats_iff seat).mp hseat
    exact absurd hnumber (Nat.ne_of_lt (hs.number_lt seat.number c hc))
  | closed number c stream _ _ hseats _ _ =>
    rw [NumbersDistinct, hseats]
    exact (List.filter_sublist.map _).nodup hdistinct

/-- A subscriber whose connection has left is not registered any more. -/
theorem isRegistered_leave (s : Server) (c : Connection) (left : EventStream)
    (hleft : (s.leave c).registry.stream? c.stream = some left) :
    left.isRegistered c.subscriber = false := by
  cases hstream : s.registry.stream? c.stream with
  | none =>
    have hsame : (s.leave c).registry = s.registry := by simp only [leave, hstream]
    rw [hsame, hstream] at hleft
    cases hleft
  | some stream =>
    rw [s.registry_leave c stream hstream, Registry.stream?_perform, if_pos rfl,
      Option.map_eq_some_iff] at hleft
    obtain ⟨before, _, rfl⟩ := hleft
    have hdropped : (before.drop c.subscriber).subscription? c.subscriber = none := by
      rw [before.subscription?_drop, if_pos rfl]
    exact congrArg (Option.any (·.registered)) hdropped

/-- Whoever is registered after an attach was so before, or has a seat now. -/
theorem registered_attach (s : Server) (hs : s.registry.Sound) (name : String)
    (lastEventId : Bytes) (key id : Nat) (stream : EventStream)
    (hstream : (s.attach name lastEventId).1.registry.stream? key = some stream)
    (hregistered : stream.isRegistered id = true) :
    (∃ old, s.registry.stream? key = some old ∧ old.isRegistered id = true) ∨
      ∃ seat ∈ (s.attach name lastEventId).1.seats, seat.stream = key ∧ seat.subscriber = id := by
  rcases s.attach_eq hs name lastEventId with ⟨r, k, found, hi, hfound, hattach⟩ | ⟨_, hattach⟩
  · have hbefore : ∀ old, r.stream? key = some old → old.isRegistered id = true →
        ∃ old, s.registry.stream? key = some old ∧ old.isRegistered id = true := by
      intro old hold hregistered
      rcases hi.only key old hold with hfound | ⟨_, _, rfl⟩
      · exact ⟨old, hfound, hregistered⟩
      · cases hregistered
    have hafter : (r.perform k s.now (.subscribe lastEventId)).stream? key = some stream := by
      rw [← hstream, hattach]
      split
      · rfl
      · rw [opened, call_eq]
    rw [Registry.stream?_perform] at hafter
    by_cases hkey : key = k
    · subst hkey
      rw [if_pos rfl, hfound] at hafter
      obtain rfl := Option.some.inj hafter
      rcases found.isRegistered_of_perform s.now id _ hregistered with
        hold | ⟨_, replay, hseen, hok⟩
      · exact Or.inl (hbefore found hfound hold)
      · right
        obtain rfl := EventStream.Op.subscribe.inj hseen
        rw [hok] at hattach
        rw [hattach, seats_opened]
        exact ⟨_, List.mem_append_right _ List.mem_cons_self, rfl, rfl⟩
    · rw [if_neg hkey] at hafter
      exact Or.inl (hbefore stream hafter hregistered)
  · rw [hattach] at hstream
    exact Or.inl ⟨stream, hstream, hregistered⟩

/-- Only an attach subscribes anybody. -/
theorem not_acts_subscribe (s : Server) (op : Op)
    (hop : ∀ name lastEventId, op ≠ .attach name lastEventId) (key : Nat) (lastSeen : Bytes) :
    ¬s.acts op key (.subscribe lastSeen) := by
  intro hacts
  cases op with
  | attach name lastEventId => exact hop name lastEventId rfl
  | createStream | advance => exact hacts
  | publish | removeStream | stop => cases hacts
  | poll | disconnect =>
    obtain ⟨c, _, _, hmem⟩ := hacts
    simp [Registry.connectionOps] at hmem

/-- Whoever is registered after an operation was so before, or has a seat now. -/
theorem registered_step (s : Server) (hs : s.registry.Sound) (op : Op) (key id : Nat)
    (stream : EventStream) (hstream : (s.step op).registry.stream? key = some stream)
    (hregistered : stream.isRegistered id = true) :
    (∃ old, s.registry.stream? key = some old ∧ old.isRegistered id = true) ∨
      ∃ seat ∈ (s.step op).seats, seat.stream = key ∧ seat.subscriber = id := by
  by_cases hop : ∃ name lastEventId, op = .attach name lastEventId
  · obtain ⟨name, lastEventId, rfl⟩ := hop
    exact s.registered_attach hs name lastEventId key id stream hstream hregistered
  · left
    have hother : ∀ name lastEventId, op ≠ .attach name lastEventId :=
      fun name lastEventId heq => hop ⟨name, lastEventId, heq⟩
    refine (s.reaches_step hs op).streams
      (P := fun key stream => stream.isRegistered id = true →
        ∃ old, s.registry.stream? key = some old ∧ old.isRegistered id = true) ?_ ?_ ?_ key stream
      hstream hregistered
    · exact fun k old hold hregistered => ⟨old, hold, hregistered⟩
    · intro k name auto _ hnew
      cases hnew
    · intro k old now o ho hold hregistered
      rcases old.isRegistered_of_perform now id o hregistered with hregistered | ⟨_, _, rfl, _⟩
      · exact hold hregistered
      · exact (s.not_acts_subscribe op hother k _ ho).elim

def Occupied (s : Server) : Prop :=
  ∀ key stream, s.registry.stream? key = some stream → ∀ id, stream.isRegistered id = true →
    ∃ seat ∈ s.seats, seat.stream = key ∧ seat.subscriber = id

theorem Occupied.step {s : Server} (ho : s.Occupied) (hs : s.Sound) (hdistinct : s.NumbersDistinct)
    (op : Op) : (s.step op).Occupied := by
  intro key stream hstream id hregistered
  rcases s.registered_step hs.registry op key id stream hstream hregistered with
    ⟨old, hold, hregisteredOld⟩ | hseated
  · obtain ⟨seat, hseat, hkey, hid⟩ := ho key old hold id hregisteredOld
    obtain ⟨subject, made, hturns⟩ := s.turns_step hs hdistinct op
    refine ⟨seat, ?_, hkey, hid⟩
    cases hturns.turnover with
    | kept hseats _ =>
      rw [hseats]
      exact hseat
    | opened name k id hseats _ _ =>
      rw [hseats]
      exact List.mem_append_left _ hseat
    | closed number c left hc hleft hseats hregistry _ =>
      rw [hseats, List.mem_filter, bne_iff_ne]
      refine ⟨hseat, ?_⟩
      rintro rfl
      -- The seat that is given up is that of the subscriber that leaves.
      obtain ⟨c', hc', hstream', hsubscriber'⟩ := (hdistinct.mem_seats_iff seat).mp hseat
      obtain rfl : c' = c := Option.some.inj (hc'.symm.trans hc)
      rw [hregistry, ← hkey, ← hstream'] at hstream
      have hgone := s.isRegistered_leave c' stream hstream
      rw [hsubscriber', hid, hregistered] at hgone
      cases hgone
  · exact hseated

structure Seated (s : Server) : Prop where
  distinct : s.NumbersDistinct
  occupied : s.Occupied

theorem Seated.step {s : Server} (h : s.Seated) (hs : s.Sound) (op : Op) : (s.step op).Seated := by
  obtain ⟨subject, made, hturns⟩ := s.turns_step hs h.distinct op
  exact ⟨h.distinct.turnover hs hturns.turnover, h.occupied.step hs h.distinct op⟩

def connectionsOn (s : Server) (key : Nat) : Nat := s.seats.countP (·.stream == key)

/-- The connections on a stream have subscribers of their own. -/
theorem NumbersDistinct.nodup_subscribers {s : Server} (hdistinct : s.NumbersDistinct)
    (hs : s.Sound) (key : Nat) :
    ((s.seats.filter (·.stream == key)).map (·.subscriber)).Nodup := by
  refine List.Nodup.map_on ?_ ((hdistinct.of_map _).filter _)
  intro seat hseat other hother hsame
  obtain ⟨hseat, hkey⟩ := List.mem_filter.mp hseat
  obtain ⟨hother, hkey'⟩ := List.mem_filter.mp hother
  obtain ⟨c, hc, hstream, hsubscriber⟩ := (hdistinct.mem_seats_iff seat).mp hseat
  obtain ⟨c', hc', hstream', hsubscriber'⟩ := (hdistinct.mem_seats_iff other).mp hother
  have hstreams : c.stream = c'.stream := by
    rw [hstream, hstream', beq_iff_eq.mp hkey, beq_iff_eq.mp hkey']
  have hnumber : seat.number = other.number :=
    hs.separate seat.number other.number c c' hc hc' hstreams
      (hsubscriber.trans (hsame.trans hsubscriber'.symm))
  exact List.inj_on_of_nodup_map hdistinct hseat hother hnumber

namespace History

variable {config : ServerConfig} {h : History}

theorem Reachable.seated (hr : h.Reachable config) : h.server.Seated := by
  refine Continues.of_step hr (P := fun h => h.server.Seated) ?_ ?_
  · refine ⟨List.nodup_nil, ?_⟩
    intro key stream hstream
    cases hstream
  · intro h hcontinues hseated op
    have hrecorded : h.Recorded config := Reachable.recorded hcontinues
    exact hseated.step hrecorded.sound op

/-- On a stream that is not removed exactly those are registered who hold a seat there. -/
theorem Reachable.isRegistered_iff (hr : h.Reachable config) (key : Nat) (stream : EventStream)
    (hstream : h.server.registry.stream? key = some stream) (hremoved : stream.removed = false)
    (id : Nat) :
    stream.isRegistered id = true ↔
      id ∈ (h.server.seats.filter (·.stream == key)).map (·.subscriber) := by
  obtain ⟨hdistinct, hoccupied⟩ := hr.seated
  constructor
  · intro hregistered
    obtain ⟨seat, hseat, hkey, hid⟩ := hoccupied key stream hstream id hregistered
    exact List.mem_map.mpr ⟨seat, List.mem_filter.mpr ⟨hseat, beq_iff_eq.mpr hkey⟩, hid⟩
  · intro hid
    obtain ⟨seat, hseat, rfl⟩ := List.mem_map.mp hid
    obtain ⟨hseat, hkey⟩ := List.mem_filter.mp hseat
    obtain ⟨c, hc, hstream', hsubscriber⟩ := (hdistinct.mem_seats_iff seat).mp hseat
    obtain ⟨found, hfound, hregistered⟩ := hr.attached seat.number c hc
    rw [hstream', beq_iff_eq.mp hkey] at hfound
    obtain rfl : found = stream := Option.some.inj (hfound.symm.trans hstream)
    rw [← hsubscriber, hregistered, hremoved]
    rfl

/-- As many connections are attached to a stream that is not removed as it has subscribers. -/
theorem Reachable.subscriberCount_eq (hr : h.Reachable config) (key : Nat) (stream : EventStream)
    (hstream : h.server.registry.stream? key = some stream) (hremoved : stream.removed = false) :
    stream.subscriberCount = h.server.connectionsOn key := by
  have hids := hr.made.distinct key stream hstream
  have hregistered : ((stream.subscriptions.filter (·.registered)).map (·.id)).Nodup :=
    (List.filter_sublist.map _).nodup hids.nodup
  have hseated := hr.seated.distinct.nodup_subscribers hr.recorded.sound key
  have hperm := (List.perm_ext_iff_of_nodup hregistered hseated).mpr fun id =>
    (hids.isRegistered_iff id).symm.trans (hr.isRegistered_iff key stream hstream hremoved id)
  have hlength := hperm.length_eq
  rw [List.length_map, List.length_map] at hlength
  rw [EventStream.subscriberCount, connectionsOn, List.countP_eq_length_filter,
    List.countP_eq_length_filter, hlength]

end History

end Server

end EventBroker
