import EventBroker.Proofs.Server.Seats

/-!
The calls of the two hooks. A connection is told of once as it is made and once as it is
closed, with the name of its stream and its subscriber both times. A name and a subscriber can
come back when a stream is removed and made anew, so calls are matched to connections by what
the operation that makes them does to the open connections.
-/
namespace EventBroker

open Http

namespace Registry

/-- A stream stays, under the name that it was made with. -/
theorem Reaches.named {allowed : Nat → EventStream.Op → Prop} {r r' : Registry}
    (h : r.Reaches allowed r') (k : Nat) (stream : EventStream)
    (hstream : r.stream? k = some stream) :
    ∃ stream', r'.stream? k = some stream' ∧ stream'.name = stream.name := by
  induction h with
  | refl => exact ⟨stream, hstream, rfl⟩
  | inserted _ hi ih =>
    obtain ⟨old, hold, hname⟩ := ih
    exact ⟨old, hi.streams k old hold, hname⟩
  | forget _ name ih => exact ih
  | perform _ key now op hop ih =>
    obtain ⟨old, hold, hname⟩ := ih
    rw [stream?_perform, hold]
    by_cases hkey : k = key
    · rw [if_pos hkey]
      exact ⟨_, rfl, (old.perform_identity now op).1.trans hname⟩
    · rw [if_neg hkey]
      exact ⟨old, rfl, hname⟩

end Registry

namespace Server

def pair? (s : Server) (seat : Seat) : Option (String × Nat) :=
  (s.registry.stream? seat.stream).map fun stream => (stream.name, seat.subscriber)

/-- How many open connections the hooks know by a name and a subscriber. -/
def openAs (s : Server) (name : String) (id : Nat) : Nat :=
  s.seats.countP fun seat => s.pair? seat == some (name, id)

/-- The hooks are never told of a seat under another name. -/
theorem pair?_step (s : Server) (hs : s.Sound) (op : Op) (seat : Seat) (p : String × Nat)
    (hpair : s.pair? seat = some p) : (s.step op).pair? seat = some p := by
  obtain ⟨stream, hstream, rfl⟩ := Option.map_eq_some_iff.mp hpair
  obtain ⟨stream', hstream', hname⟩ := (s.reaches_step hs.registry op).named _ stream hstream
  rw [pair?, hstream', Option.map_some, hname]

theorem exists_pair? (s : Server) (hs : s.Sound) (hdistinct : s.NumbersDistinct) (seat : Seat)
    (hseat : seat ∈ s.seats) : ∃ name, s.pair? seat = some (name, seat.subscriber) := by
  obtain ⟨c, hc, hkey, _⟩ := (hdistinct.mem_seats_iff seat).mp hseat
  obtain ⟨stream, hstream, _⟩ := hs.subscriber_lt seat.number c hc
  rw [hkey] at hstream
  exact ⟨stream.name, by rw [pair?, hstream, Option.map_some]⟩

theorem countP_pair?_step (s : Server) (hs : s.Sound) (hdistinct : s.NumbersDistinct) (op : Op)
    (name : String) (id : Nat) :
    (s.seats.countP fun seat => (s.step op).pair? seat == some (name, id)) = s.openAs name id := by
  apply List.countP_congr
  intro seat hseat
  obtain ⟨known, hpair⟩ := s.exists_pair? hs hdistinct seat hseat
  rw [hpair, s.pair?_step hs op seat _ hpair]

theorem count_subscribe (n name : String) (i id : Nat) :
    [HookCall.subscribe n i].count (.subscribe name id) =
        (if some (n, i) == some (name, id) then 1 else 0) ∧
      [HookCall.subscribe n i].count (.unsubscribe name id) = 0 := by
  simp [List.count_singleton]

theorem count_unsubscribe (n name : String) (i id : Nat) :
    [HookCall.unsubscribe n i].count (.unsubscribe name id) =
        (if some (n, i) == some (name, id) then 1 else 0) ∧
      [HookCall.unsubscribe n i].count (.subscribe name id) = 0 := by
  simp [List.count_singleton]

/-- For every name and subscriber there are as many calls for a connection that was made as for
one that was closed or is open. -/
def HooksBalance (s : Server) : Prop :=
  ∀ name id, s.calls.count (.subscribe name id) =
    s.calls.count (.unsubscribe name id) + s.openAs name id

theorem HooksBalance.step {s : Server} (h : s.HooksBalance) (hs : s.Sound)
    (hdistinct : s.NumbersDistinct) (hhooked : s.hooked = true) (op : Op) :
    (s.step op).HooksBalance := by
  intro name id
  have hbefore := h name id
  have hold := s.countP_pair?_step hs hdistinct op name id
  obtain ⟨subject, made, hturnover, hcalls, _⟩ := s.turns_step hs hdistinct op
  rw [heard, if_pos hhooked] at hcalls
  rw [hcalls, List.count_append, List.count_append, openAs]
  cases hturnover with
  | kept hseats _ =>
    rw [hseats, hold, List.count_nil, List.count_nil]
    exact hbefore
  | opened n key i hseats _ hname =>
    obtain ⟨stream, hstream, rfl⟩ := hname
    have hpair : (s.step op).pair? ⟨s.nextConnection, key, i⟩ = some (stream.name, i) := by
      rw [pair?, hstream, Option.map_some]
    obtain ⟨hmade, hnone⟩ := count_subscribe stream.name name i id
    rw [hseats, List.countP_append, hold, List.countP_singleton, hpair, hmade, hnone]
    omega
  | closed number c stream hc hstream hseats _ _ =>
    have hseat : ⟨number, c.stream, c.subscriber⟩ ∈ s.seats :=
      (hdistinct.mem_seats_iff _).mpr ⟨c, hc, rfl, rfl⟩
    have hpair : s.pair? ⟨number, c.stream, c.subscriber⟩ = some (stream.name, c.subscriber) := by
      rw [pair?, hstream, Option.map_some]
    have hperm : s.seats.Perm
        (⟨number, c.stream, c.subscriber⟩ :: s.seats.filter fun seat => seat.number != number) :=
      perm_cons_filter_ne s.seats (·.number) hdistinct _ hseat
    obtain ⟨hmade, hnone⟩ := count_unsubscribe stream.name name c.subscriber id
    rw [hperm.countP_eq, List.countP_cons, s.pair?_step hs op _ _ hpair] at hold
    rw [hseats, hmade, hnone]
    omega

theorem isSome_connection?_iff (s : Server) (number : Nat) :
    (s.connection? number).isSome = true ↔ ∃ seat ∈ s.seats, seat.number = number := by
  rw [← List.mem_map, map_number_seats, List.mem_map]
  refine List.lookup_isSome_iff.trans (exists_congr fun pair => and_congr_right fun _ => ?_)
  rw [beq_iff_eq]
  exact eq_comm

/-- The seats under other numbers than the one that an operation is about. -/
theorem Turnover.others {s s' : Server} {subject : Option Nat} {made : List HookCall}
    (h : Turnover s s' subject made) (number : Nat) (hne : subject ≠ some number) :
    (∀ seat, seat.number = number → (seat ∈ s'.seats ↔ seat ∈ s.seats)) ∧
      (s'.nextConnection ≤ number ↔ s.nextConnection ≤ number) := by
  cases h with
  | kept hseats hnext =>
    rw [hseats, hnext]
    exact ⟨fun _ _ => Iff.rfl, Iff.rfl⟩
  | opened name key id hseats hnext _ =>
    have hnew : s.nextConnection ≠ number := fun heq => hne (congrArg some heq)
    refine ⟨?_, by omega⟩
    intro seat hnumber
    rw [hseats, List.mem_append, List.mem_singleton]
    refine or_iff_left ?_
    rintro rfl
    exact hnew hnumber
  | closed n c stream _ _ hseats _ hnext =>
    have hother : number ≠ n := fun heq => hne (congrArg some heq.symm)
    rw [hseats, hnext]
    refine ⟨?_, Iff.rfl⟩
    rintro seat rfl
    rw [List.mem_filter, bne_iff_ne]
    exact and_iff_left hother

namespace Moment

def called (m : Moment) : List HookCall := m.after.calls.drop m.server.calls.length

def turnsOver (number : Nat) (m : Moment) : Bool :=
  (m.server.connection? number).isSome != (m.after.connection? number).isSome

def calledFor (number : Nat) (m : Moment) : List HookCall :=
  if m.turnsOver number then m.called else []

end Moment

theorem Turns.called_eq {m : Moment} {subject : Option Nat} {made : List HookCall}
    (h : m.server.Turns m.after subject made) (hhooked : m.server.hooked = true) :
    m.called = made := by
  rw [Moment.called, h.calls, heard, if_pos hhooked, List.drop_left]

/-- An operation opens or closes the connection that it is about, and no other. -/
theorem Turnover.turnsOver_iff {m : Moment} {subject : Option Nat} {made : List HookCall}
    (h : Turnover m.server m.after subject made) (hs : m.server.Sound) (number : Nat) :
    m.turnsOver number = true ↔ subject = some number := by
  rw [Moment.turnsOver, bne_iff_ne, Ne, Bool.eq_iff_iff, isSome_connection?_iff,
    isSome_connection?_iff]
  constructor
  · intro hturns
    by_contra hne
    obtain ⟨hseats, _⟩ := h.others number hne
    exact hturns (exists_congr fun seat => and_congr_left fun hnumber => (hseats seat hnumber).symm)
  · rintro rfl hsame
    cases h with
    | opened name key id hseats _ _ =>
      have hunused := hs.unused_number _ rfl
      have hafter : ∃ seat ∈ m.after.seats, seat.number = m.server.nextConnection := by
        rw [hseats]
        exact ⟨_, List.mem_append_right _ List.mem_cons_self, rfl⟩
      have hbefore := (m.server.isSome_connection?_iff _).mpr (hsame.mpr hafter)
      rw [hunused] at hbefore
      cases hbefore
    | closed _ c stream hc _ hseats _ _ =>
      have hbefore : (m.server.connection? number).isSome = true := by rw [hc, Option.isSome_some]
      obtain ⟨seat, hseat, hnumber⟩ :=
        hsame.mp ((m.server.isSome_connection?_iff number).mp hbefore)
      rw [hseats, List.mem_filter, bne_iff_ne] at hseat
      exact hseat.2 hnumber

/-- A granted request for a stream is told of, and that of a `HEAD` request is told of again as
its connection is dropped. -/
def told (r : Request) (name : String) (id : Nat) : List HookCall :=
  .subscribe name id :: if r.method == "HEAD" then [.unsubscribe name id] else []

theorem heard_append (s : Server) (first second : List HookCall) :
    s.heard (first ++ second) = s.heard first ++ s.heard second := by
  unfold heard
  split <;> rfl

theorem calls_publish (s : Server) (hs : s.registry.Sound) (name : String) (e : Event) :
    (s.publish name e).1.calls = s.calls := by
  rcases s.publish_cases hs name e with ⟨_, _, _, _, _, hpublish⟩ | ⟨_, hpublish⟩ <;> rw [hpublish]

/-- What is made of a server by a request for a stream that succeeds: a connection of this stream,
which the hook was told of. -/
def Opens (s s' : Server) (name : String) (number : Nat) : Prop :=
  ∃ c stream, s'.connection? number = some c ∧ s'.registry.stream? c.stream = some stream ∧
    stream.name = name ∧ s'.hooked = s.hooked ∧
    s'.calls = s.calls ++ s.heard [.subscribe name c.subscriber]

theorem calls_attach (s : Server) (hs : s.Sound) (name : String) (lastEventId : Bytes) :
    (∃ fault, (s.attach name lastEventId).2 = .error fault ∧
        (s.attach name lastEventId).1.calls = s.calls) ∨
      ∃ number, (s.attach name lastEventId).2 = .ok number ∧
        s.Opens (s.attach name lastEventId).1 name number := by
  rcases s.attach_opens hs.registry name lastEventId with
    ⟨r, fault, hattach⟩ | ⟨r, c, stream, hattach, hstream, hname⟩
  · left
    rw [hattach]
    exact ⟨fault, rfl, rfl⟩
  · right
    have hturns := s.turns_opened name r c stream hstream hname
    rw [hattach]
    refine ⟨s.nextConnection, rfl, c, stream, ?_, ?_, hname, hturns.hooked, hturns.calls⟩
    · rw [connection?_opened, hs.unused_number _ rfl, if_pos rfl, Option.none_or]
    · rw [opened, call_eq]
      exact hstream

end Server

theorem status_withLength (r : Reply) : r.withLength.status = r.status := by
  unfold Reply.withLength
  split <;> rfl

def Served.isGranted : Served → Bool
  | .opened _ _ => true
  | .whole reply => reply.status == 200
  | .broken _ => false

namespace Server

/-- No reply to a publication looks like a stream. -/
theorem status_servePublish (s : Server) (r : Request) :
    ((s.servePublish r).2.status == 200) = false := by
  unfold servePublish
  split
  · exact congrArg (· == 200) (status_withLength _)
  · split
    · exact congrArg (· == 200) (status_withLength _)
    · split
      · exact congrArg (· == 200) (status_withLength _)
      · simp only
        split <;> exact congrArg (· == 200) (status_withLength _)

theorem calls_servePublish (s : Server) (hs : s.registry.Sound) (r : Request) :
    (s.servePublish r).1.calls = s.calls := by
  rw [servePublish_fst]
  cases postedEvent r with
  | none => rfl
  | some posted => exact s.calls_publish hs posted.1 posted.2

/-- A request for a stream attaches to it, or it is refused and no hook is called. -/
theorem calls_serveStream (s : Server) (hs : s.Sound) (r : Request) :
    ((s.serveStream r).2.isGranted = false ∧ (s.serveStream r).1.calls = s.calls) ∨
      ∃ name lastEventId reply number, requestedStream r = some (name, lastEventId) ∧
        (s.serveStream r).2 = .opened reply number ∧ reply.status = 200 ∧
        s.Opens (s.serveStream r).1 name number := by
  unfold serveStream requestedStream
  cases Form.readFields ["stream"] r.query with
  | error fault => exact Or.inl ⟨congrArg (· == 200) (status_withLength _), rfl⟩
  | ok fields =>
    simp only
    by_cases hname : ((fields.lookup "stream").getD "").isEmpty = true
    · simp only [if_pos hname]
      exact Or.inl ⟨congrArg (· == 200) (status_withLength _), trivial⟩
    · simp only [if_neg hname]
      have hattach := s.calls_attach hs ((fields.lookup "stream").getD "")
        ((r.headers.get? "last-event-id").getD [])
      generalize s.attach _ _ = answer at hattach ⊢
      obtain ⟨s', fault | number⟩ := answer
      · left
        rcases hattach with ⟨_, _, hcalls⟩ | ⟨number, hok, _⟩
        · cases fault with
          | streamNotFound => exact ⟨congrArg (· == 200) (status_withLength _), hcalls⟩
          | noRoom | tooMuchRoom => exact ⟨rfl, hcalls⟩
        · cases hok
      · right
        rcases hattach with ⟨_, hfault, _⟩ | ⟨n, hok, hopens⟩
        · cases hfault
        · obtain rfl : number = n := Except.ok.inj hok
          exact ⟨_, _, _, number, rfl, rfl, rfl, hopens⟩

/-- The calls that go with the answer to a request: none if it is refused. -/
def Informs (s : Server) (r : Request) (answer : Server × Served) : Prop :=
  answer.2.isGranted = false ∧ answer.1.calls = s.calls ∨
    answer.2.isGranted = true ∧ ∃ name lastEventId id,
      requestedStream r = some (name, lastEventId) ∧
        answer.1.calls = s.calls ++ s.heard (told r name id)

theorem informs_handle (s : Server) (hs : s.Sound) (routes : Routes) (r : Request) :
    s.Informs r (s.handle routes r) := by
  cases hendpoint : (routes.endpoints r.path).find? (·.methods.contains r.method) with
  | none =>
    simp only [handle, hendpoint]
    left
    split <;> exact ⟨congrArg (· == 200) (status_withLength _), rfl⟩
  | some endpoint =>
    cases endpoint with
    | publish =>
      simp only [handle, hendpoint]
      exact Or.inl ⟨s.status_servePublish r, s.calls_servePublish hs.registry r⟩
    | stream =>
      simp only [handle, hendpoint]
      have hserve := s.calls_serveStream hs r
      generalize s.serveStream r = answer at hserve ⊢
      obtain ⟨s', served⟩ := answer
      rcases hserve with ⟨hrefused, hcalls⟩ |
        ⟨name, lastEventId, reply, number, hname, hserved, hstatus, hopens⟩
      · left
        cases served with
        | whole reply => cases r.method == "HEAD" <;> exact ⟨hrefused, hcalls⟩
        | opened reply number => cases hrefused
        | broken cause => cases r.method == "HEAD" <;> exact ⟨hrefused, hcalls⟩
      · right
        obtain ⟨c, stream, hc, hstream, rfl, hhooked, hcalls⟩ := hopens
        obtain rfl : served = .opened reply number := hserved
        cases hhead : r.method == "HEAD" with
        | false =>
          refine ⟨rfl, _, lastEventId, c.subscriber, hname, ?_⟩
          rw [told, hhead]
          exact hcalls
        | true =>
          refine ⟨beq_iff_eq.mpr hstatus, _, lastEventId, c.subscriber, hname, ?_⟩
          have hturns := s'.turns_disconnect s' rfl rfl number c stream hc hc hstream
          have hleft : (s'.disconnect number).calls =
              s'.calls ++ s.heard [.unsubscribe stream.name c.subscriber] := by
            rw [hturns.calls, heard, hhooked]
            rfl
          rw [told, hhead]
          refine hleft.trans ?_
          rw [hcalls, List.append_assoc, ← heard_append]
          rfl

namespace History

def callsFor (h : History) (number : Nat) : List HookCall := h.past.flatMap (·.calledFor number)

theorem callsFor_step (h : History) (op : Op) (number : Nat) :
    (h.step op).callsFor number = h.callsFor number ++ (h.moment op).calledFor number := by
  rw [callsFor, step, List.flatMap_append, List.flatMap_singleton]
  rfl

/-- What the hooks are told of the connection of a number, which is not yet made, open or closed. -/
structure Tells (h : History) (number : Nat) : Prop where
  unused : h.server.nextConnection ≤ number → h.callsFor number = []
  opened : ∀ seat ∈ h.server.seats, seat.number = number → ∃ name,
    h.server.pair? seat = some (name, seat.subscriber) ∧
      h.callsFor number = [.subscribe name seat.subscriber]
  closed : number < h.server.nextConnection →
    (∀ seat ∈ h.server.seats, seat.number ≠ number) → ∃ name id,
      h.callsFor number = [.subscribe name id, .unsubscribe name id]

/-- The operation is about another connection, if any. -/
theorem Tells.step_other {h : History} {number : Nat} (ht : h.Tells number) (hs : h.server.Sound)
    (op : Op) {subject : Option Nat} {made : List HookCall}
    (hturnover : Turnover h.server (h.step op).server subject made)
    (hsubject : subject ≠ some number)
    (hcalls : (h.step op).callsFor number = h.callsFor number) : (h.step op).Tells number := by
  obtain ⟨hseats, hnext⟩ := hturnover.others number hsubject
  refine ⟨?_, ?_, ?_⟩
  · intro hunused
    rw [hcalls]
    exact ht.unused (hnext.mp hunused)
  · intro seat hseat hnumber
    obtain ⟨name, hname, htold⟩ := ht.opened seat ((hseats seat hnumber).mp hseat) hnumber
    exact ⟨name, h.server.pair?_step hs op seat _ hname, hcalls.trans htold⟩
  · intro hmade hgone
    rw [hcalls]
    refine ht.closed (by omega) ?_
    intro seat hseat hnumber
    exact hgone seat ((hseats seat hnumber).mpr hseat) hnumber

/-- The operation opens or closes the connection. -/
theorem Tells.step_own {h : History} {number : Nat} (ht : h.Tells number) (hs : h.server.Sound)
    (hdistinct : h.server.NumbersDistinct) (op : Op) {made : List HookCall}
    (hturnover : Turnover h.server (h.step op).server (some number) made)
    (hcalls : (h.step op).callsFor number = h.callsFor number ++ made) :
    (h.step op).Tells number := by
  cases hturnover with
  | opened name key id hseats hnext hname =>
    rw [ht.unused (Nat.le_refl _), List.nil_append] at hcalls
    refine ⟨fun hunused => by omega, ?_, ?_⟩
    · intro seat hseat hnumber
      rw [hseats, List.mem_append, List.mem_singleton] at hseat
      rcases hseat with hold | rfl
      · obtain ⟨c, hc, _⟩ := (hdistinct.mem_seats_iff seat).mp hold
        exact absurd hnumber (Nat.ne_of_lt (hs.number_lt seat.number c hc))
      · obtain ⟨stream, hstream, rfl⟩ := hname
        exact ⟨stream.name, by rw [pair?, hstream, Option.map_some], hcalls⟩
    · intro _ hgone
      rw [hseats] at hgone
      exact absurd rfl (hgone _ (List.mem_append_right _ List.mem_cons_self))
  | closed _ c stream hc hstream hseats _ hnext =>
    have hseat : ⟨number, c.stream, c.subscriber⟩ ∈ h.server.seats :=
      (hdistinct.mem_seats_iff _).mpr ⟨c, hc, rfl, rfl⟩
    have hlt := hs.number_lt number c hc
    refine ⟨fun hunused => by omega, ?_, ?_⟩
    · intro seat hleft hnumber
      rw [hseats, List.mem_filter, bne_iff_ne] at hleft
      exact absurd hnumber hleft.2
    · -- The two calls are for one seat, and its stream has kept its name.
      intro _ _
      obtain ⟨name, hname, htold⟩ := ht.opened _ hseat rfl
      rw [pair?, hstream, Option.map_some, Option.some.injEq, Prod.mk.injEq] at hname
      rw [htold, hname.1] at hcalls
      exact ⟨name, c.subscriber, hcalls⟩

theorem Tells.step {h : History} {number : Nat} (ht : h.Tells number) (hs : h.server.Sound)
    (hdistinct : h.server.NumbersDistinct) (hhooked : h.server.hooked = true) (op : Op) :
    (h.step op).Tells number := by
  obtain ⟨subject, made, hturns⟩ := h.server.turns_step hs hdistinct op
  have hturns' : (h.moment op).server.Turns (h.moment op).after subject made := hturns
  have hcalls : (h.step op).callsFor number =
      h.callsFor number ++ if subject = some number then made else [] := by
    rw [callsFor_step, Moment.calledFor, hturns'.called_eq hhooked]
    congr 1
    exact if_congr (hturns'.turnover.turnsOver_iff hs number) rfl rfl
  by_cases hsubject : subject = some number
  · subst hsubject
    rw [if_pos rfl] at hcalls
    exact ht.step_own hs hdistinct op hturns.turnover hcalls
  · rw [if_neg hsubject, List.append_nil] at hcalls
    exact ht.step_other hs op hturns.turnover hsubject hcalls

structure Told (h : History) : Prop where
  hooked : h.server.hooked = true
  balance : h.server.HooksBalance
  calls : h.server.calls = h.past.flatMap (·.called)
  single : ∀ m ∈ h.past, m.called ≠ [] → ∃ number, ∀ n, m.turnsOver n = true ↔ n = number
  tells : ∀ number, h.Tells number

theorem Told.step {h : History} (ht : h.Told) (hs : h.server.Sound)
    (hdistinct : h.server.NumbersDistinct) (op : Op) : (h.step op).Told := by
  obtain ⟨subject, made, hturns⟩ := h.server.turns_step hs hdistinct op
  have hturns' : (h.moment op).server.Turns (h.moment op).after subject made := hturns
  have hcalled := hturns'.called_eq ht.hooked
  refine ⟨hturns.hooked.trans ht.hooked, ht.balance.step hs hdistinct ht.hooked op, ?_, ?_,
    fun number => (ht.tells number).step hs hdistinct ht.hooked op⟩
  · have hcalls : (h.step op).server.calls = h.server.calls ++ h.server.heard made := hturns.calls
    rw [hcalls, heard, if_pos ht.hooked, History.step, List.flatMap_append,
      List.flatMap_singleton, hcalled, ht.calls]
  · intro m hm hmade
    rcases List.mem_append.mp hm with hbefore | hlast
    · exact ht.single m hbefore hmade
    · obtain rfl := List.mem_singleton.mp hlast
      rw [hcalled] at hmade
      have hturnsOver := hturns'.turnover.turnsOver_iff hs
      cases subject with
      | none =>
        cases hturns.turnover
        exact absurd rfl hmade
      | some number =>
        refine ⟨number, fun n => ?_⟩
        rw [hturnsOver n, Option.some.injEq]
        exact eq_comm

variable {config : ServerConfig} {h : History}

theorem Reachable.told (hr : h.Reachable config) : h.Told := by
  refine Continues.of_step hr (P := Told) ?_ ?_
  · refine ⟨rfl, fun _ _ => rfl, rfl, ?_, ?_⟩
    · intro m hm
      cases hm
    · intro number
      refine ⟨fun _ => rfl, ?_, ?_⟩
      · intro seat hseat
        cases hseat
      · intro hmade
        cases hmade
  · intro h hcontinues ht op
    have hr : h.Reachable config := hcontinues
    exact ht.step hr.recorded.sound hr.seated.distinct op

/-- As many connections are attached to a stream that is not removed as it has subscribers, and
for every name and subscriber the calls for a connection that was made exceed those for one that
was closed by the number of the open ones. Every call is made by an operation that opens or
closes one connection. A connection that is open has been told of once, one that is closed once
as it was made and once as it was closed, with the same name and subscriber, and one that is not
yet made not at all. Of a request only one that is granted is told of, once, or twice if its
connection is dropped at once. -/
theorem hooks_balance (config : ServerConfig) (h : History) (hr : h.Reachable config) :
    (∀ key stream, h.server.registry.stream? key = some stream → stream.removed = false →
        stream.subscriberCount = h.server.connectionsOn key) ∧
      (∀ name id, h.server.calls.count (.subscribe name id) =
        h.server.calls.count (.unsubscribe name id) + h.server.openAs name id) ∧
      h.server.calls = h.past.flatMap (·.called) ∧
      (∀ m ∈ h.past, m.called ≠ [] → ∃ number, ∀ n, m.turnsOver n = true ↔ n = number) ∧
      (∀ number, h.server.nextConnection ≤ number → h.callsFor number = []) ∧
      (∀ number c, h.server.connection? number = some c → ∃ stream,
        h.server.registry.stream? c.stream = some stream ∧
          h.callsFor number = [.subscribe stream.name c.subscriber]) ∧
      (∀ number, number < h.server.nextConnection → h.server.connection? number = none →
        ∃ name id, h.callsFor number = [.subscribe name id, .unsubscribe name id]) ∧
      ∀ routes r,
        ((h.server.handle routes r).2.isGranted = false →
          (h.server.handle routes r).1.calls = h.server.calls) ∧
        ((h.server.handle routes r).2.isGranted = true → ∃ name lastEventId id,
          requestedStream r = some (name, lastEventId) ∧
            (h.server.handle routes r).1.calls = h.server.calls ++ told r name id) := by
  obtain ⟨hhooked, hbalance, hcalls, hsingle, htells⟩ := hr.told
  have hdistinct := hr.seated.distinct
  refine ⟨hr.subscriberCount_eq, hbalance, hcalls, hsingle, fun number => (htells number).unused,
    ?_, ?_, ?_⟩
  · intro number c hc
    have hseat : ⟨number, c.stream, c.subscriber⟩ ∈ h.server.seats :=
      (hdistinct.mem_seats_iff _).mpr ⟨c, hc, rfl, rfl⟩
    obtain ⟨name, hname, htold⟩ := (htells number).opened _ hseat rfl
    obtain ⟨stream, hstream, hpair⟩ := Option.map_eq_some_iff.mp hname
    rw [← (Prod.mk.inj hpair).1] at htold
    exact ⟨stream, hstream, htold⟩
  · intro number hmade hgone
    refine (htells number).closed hmade ?_
    intro seat hseat hnumber
    have hopen := (h.server.isSome_connection?_iff number).mpr ⟨seat, hseat, hnumber⟩
    rw [hgone] at hopen
    cases hopen
  · intro routes r
    rcases h.server.informs_handle hr.recorded.sound routes r with
      ⟨hrefused, hsame⟩ | ⟨hgranted, name, lastEventId, id, hname, hmade⟩
    · refine ⟨fun _ => hsame, fun hgranted => ?_⟩
      cases hrefused.symm.trans hgranted
    · refine ⟨fun hrefused => ?_, fun _ => ⟨name, lastEventId, id, hname, ?_⟩⟩
      · cases hrefused.symm.trans hgranted
      · rw [hmade, heard, if_pos hhooked]

/-- The stream `news` is removed under connection 0, which a poll closes, and connection 1 has the
same subscriber of another stream of this name. -/
def recurring : History :=
  ofOps { autoStream := true } [.attach "news" [], .removeStream "news", .attach "news" [], .poll 0]

theorem hooks_balance_recurring :
    recurring.Reachable { autoStream := true } ∧
      recurring.server.calls.count (.subscribe "news" 1) =
        recurring.server.calls.count (.unsubscribe "news" 1) + recurring.server.openAs "news" 1 ∧
      recurring.server.openAs "news" 1 = 1 ∧
      ∃ name id, recurring.callsFor 0 = [.subscribe name id, .unsubscribe name id] := by
  have hr : recurring.Reachable { autoStream := true } := reachable_ofOps _ _
  obtain ⟨_, hbalance, _, _, _, _, hclosed, _⟩ := hooks_balance _ recurring hr
  exact ⟨hr, hbalance "news" 1, by decide +kernel,
    hclosed 0 (by decide +kernel) (by decide +kernel)⟩

end History

end Server

end EventBroker
