import EventBroker.Proofs.Server.Backlog
import EventBroker.Proofs.Server.Holding

/-!
The books of one connection. Whatever a server is asked for, the frames that a connection
was sent, without the keep-alives, and the events that it still holds are its backlog and
the events that were published on its stream object since then and found room in its
queue. A body ends when the server was stopped, or when its stream was removed and all it
held was sent, and after the stop nothing is sent any more.
-/
namespace EventBroker.Server

namespace Moment

/-- The stream object that an attach finds, by its key, and the backlog that the connection of a
number is given there. -/
def attached (number : Nat) (m : Moment) : Option (Nat × List Event) :=
  match m.op with
  | .attach name lastEventId =>
    match (m.server.attach name lastEventId).2 with
    | .ok n =>
      if n = number then
        (m.after.registry.key? name).map fun key => (key, m.server.backlog name lastEventId)
      else none
    | .error _ => none
  | _ => none

theorem attached_of_not {m : Moment} {number : Nat}
    (h : ∀ name lastEventId, m.op = .attach name lastEventId →
      (m.server.attach name lastEventId).2 ≠ .ok number) : m.attached number = none := by
  unfold attached
  split
  · next name lastEventId hop =>
    split
    · next n hn =>
      have hne : n ≠ number := fun heq => h name lastEventId hop (heq ▸ hn)
      exact if_neg hne
    · rfl
  · rfl

theorem attached_of_ok {s : Server} {name : String} {lastEventId : Bytes} {number key : Nat}
    (hok : (s.attach name lastEventId).2 = .ok number)
    (hkey : (s.attach name lastEventId).1.registry.key? name = some key) :
    (Moment.mk s (.attach name lastEventId)).attached number =
      some (key, s.backlog name lastEventId) := by
  have hafter : (Moment.mk s (.attach name lastEventId)).after =
      (s.attach name lastEventId).1 := rfl
  simp only [attached, hok, hafter, hkey, if_true, Option.map_some]

end Moment

namespace History

open EventStream.History (filterMap_concat)

def origin (h : History) (number : Nat) : Option (Nat × List Event) :=
  h.past.findSome? (·.attached number)

def accepted (h : History) (number : Nat) : List Event := h.past.filterMap (·.accepted number)

/-- The frames that were written to a connection, without the keep-alives. -/
def frames (h : History) (number : Nat) : List Bytes :=
  (h.emitted number).filter (· ≠ Frame.keepAlive)

theorem emitted_step (h : History) (op : Op) (number : Nat) :
    (h.step op).emitted number = h.emitted number ++ ((h.moment op).emitted number).toList :=
  filterMap_concat _ h.past (h.moment op)

theorem frames_step (h : History) (op : Op) (number : Nat) :
    (h.step op).frames number = h.frames number ++
      ((h.moment op).emitted number).toList.filter (· ≠ Frame.keepAlive) := by
  rw [frames, emitted_step, List.filter_append]
  rfl

theorem accepted_step (h : History) (op : Op) (number : Nat) :
    (h.step op).accepted number = h.accepted number ++ ((h.moment op).accepted number).toList :=
  filterMap_concat _ h.past (h.moment op)

theorem origin_step (h : History) (op : Op) (number : Nat) :
    (h.step op).origin number = (h.origin number).or ((h.moment op).attached number) := by
  rw [origin, step, List.findSome?_append, List.findSome?_singleton]
  rfl

/-- The books of the connection of a number, which was attached to a stream object and given a
backlog. -/
structure Balances (config : ServerConfig) (h : History) (number key : Nat)
    (backlog : List Event) : Prop where
  made : number < h.server.nextConnection
  known : ∀ e ∈ backlog ++ h.accepted number, e ∈ (h.publishedOn key).map (·.event)
  sent : h.frames number <+: (backlog ++ h.accepted number).map (Frame.encode config.base64)
  carries : ∀ c, h.server.connection? number = some c → ∃ held,
    h.server.Carries number key held ∧
      h.frames number ++ held.map (Frame.encode config.base64) =
        (backlog ++ h.accepted number).map (Frame.encode config.base64)

structure Unused (h : History) (number : Nat) : Prop where
  closed : h.server.connection? number = none
  emitted : h.emitted number = []
  accepted : h.accepted number = []

variable {config : ServerConfig} {h : History} {number key : Nat} {backlog : List Event}

theorem nextConnection_le_step (s : Server) (hs : s.Sound) (op : Op) :
    s.nextConnection ≤ (s.step op).nextConnection := by
  by_cases hop : op = .stop
  · rw [hop]
    exact Nat.le_refl _
  · exact (s.step_frame hs op hop).2.2

/-- What a connection accepts is published on its own stream object. -/
theorem Balances.known_step (hb : h.Balances config number key backlog) (op : Op) :
    ∀ e ∈ backlog ++ (h.step op).accepted number,
      e ∈ ((h.step op).publishedOn key).map (·.event) := by
  intro e he
  rw [accepted_step, ← List.append_assoc] at he
  rw [publishedOn_step, List.map_append]
  rcases List.mem_append.mp he with he | he
  · exact List.mem_append_left _ (hb.known e he)
  · apply List.mem_append_right
    obtain ⟨c, hc, x, hx, rfl⟩ := Moment.exists_of_accepted (Option.mem_toList.mp he)
    obtain ⟨held, hcarries, _⟩ := hb.carries c hc
    obtain ⟨c', _, hc', rfl, _⟩ := hcarries.found
    obtain rfl : c' = c := Option.some.inj (hc'.symm.trans hc)
    rw [hx]
    exact List.mem_singleton.mpr rfl

/-- A connection that is gone is sent nothing more. -/
theorem Balances.step_closed (hb : h.Balances config number key backlog) (hs : h.server.Sound)
    (hclosed : h.server.connection? number = none) (op : Op) :
    (h.step op).Balances config number key backlog := by
  have hgone := h.server.connection?_step_of_none hs number op hclosed
    fun name lastEventId _ => h.server.attach_ne_ok_of_lt hs number hb.made name lastEventId
  have hframes : (h.step op).frames number = h.frames number := by
    rw [frames_step, Moment.emitted_of_closed (m := h.moment op) hclosed, Option.toList_none,
      List.filter_nil, List.append_nil]
  have haccepted : (h.step op).accepted number = h.accepted number := by
    rw [accepted_step, Moment.accepted_of_closed (m := h.moment op) hclosed, Option.toList_none,
      List.append_nil]
  refine ⟨Nat.lt_of_lt_of_le hb.made (nextConnection_le_step _ hs op), hb.known_step op, ?_, ?_⟩
  · rw [hframes, haccepted]
    exact hb.sent
  · intro c hc
    cases hgone.symm.trans hc

theorem Balances.step (hb : h.Balances config number key backlog) (hr : h.Recorded config)
    (op : Op) : (h.step op).Balances config number key backlog := by
  cases hopen : h.server.connection? number with
  | none => exact hb.step_closed hr.sound hopen op
  | some c =>
    obtain ⟨held, hcarries, hbalance⟩ := hb.carries c hopen
    obtain ⟨said, hsaid, hstep⟩ := hcarries.step hr.sound op
    rw [hr.config_eq] at hsaid
    have hframes : (h.step op).frames number =
        h.frames number ++ said.toList.map (Frame.encode config.base64) := by
      rw [frames_step]
      exact congrArg (h.frames number ++ ·) hsaid
    have hmade := Nat.lt_of_lt_of_le hb.made (nextConnection_le_step _ hr.sound op)
    rcases hstep with ⟨rfl, hnone, hclosed⟩ | ⟨held', hcarries', hheld⟩
    · have haccepted : (h.step op).accepted number = h.accepted number := by
        rw [accepted_step, show (h.moment op).accepted number = none from hnone,
          Option.toList_none, List.append_nil]
      refine ⟨hmade, hb.known_step op, ?_, ?_⟩
      · rw [hframes, haccepted, Option.toList_none, List.map_nil, List.append_nil]
        exact hb.sent
      · intro c' hc'
        cases hclosed.symm.trans hc'
    · have hbalance' : (h.step op).frames number ++ held'.map (Frame.encode config.base64) =
          (backlog ++ (h.step op).accepted number).map (Frame.encode config.base64) := by
        calc (h.step op).frames number ++ held'.map (Frame.encode config.base64)
            = h.frames number ++ (said.toList ++ held').map (Frame.encode config.base64) := by
              rw [hframes, List.map_append, List.append_assoc]
          _ = h.frames number ++ (held ++ ((h.moment op).accepted number).toList).map
                (Frame.encode config.base64) := by
              rw [hheld]
              rfl
          _ = (backlog ++ (h.step op).accepted number).map (Frame.encode config.base64) := by
              rw [List.map_append, ← List.append_assoc, hbalance, ← List.map_append,
                List.append_assoc, ← accepted_step]
      refine ⟨hmade, hb.known_step op, ⟨_, hbalance'⟩, ?_⟩
      exact fun _ _ => ⟨held', hcarries', hbalance'⟩

/-- A new connection holds its backlog. -/
theorem Unused.attach (hu : h.Unused number) (hr : h.Recorded config) (name : String)
    (lastEventId : Bytes) (hok : (h.server.attach name lastEventId).2 = .ok number) :
    ∃ key backlog, (h.moment (.attach name lastEventId)).attached number = some (key, backlog) ∧
      (h.step (.attach name lastEventId)).Balances config number key backlog := by
  obtain ⟨hnumber, c, stream, hconnection, hreplay, hpublished, hkey, hstream, hremoved, hsub⟩ :=
    hr.attach_ok name lastEventId number hok
  have hc : (h.step (.attach name lastEventId)).server.connection? number = some c := by
    have hlookup := hconnection number
    rw [if_pos rfl, hu.closed, Option.none_or] at hlookup
    exact hlookup
  have hframes : (h.step (.attach name lastEventId)).frames number = [] := by
    rw [frames, emitted_step, hu.emitted]
    rfl
  have haccepted : (h.step (.attach name lastEventId)).accepted number = [] := by
    rw [accepted_step, hu.accepted,
      Moment.accepted_of_closed (m := h.moment (.attach name lastEventId)) hu.closed]
    rfl
  have hcarries : (h.step (.attach name lastEventId)).server.Carries number c.stream
      (h.server.backlog name lastEventId) := by
    refine ⟨c, [], hc, rfl, ⟨stream, { id := c.subscriber }, hstream, hsub, rfl, ?_⟩, ?_⟩
    · rw [hremoved]
      rfl
    · rw [List.append_nil, hreplay]
  have hmade := (hr.sound.step (.attach name lastEventId)).number_lt number c hc
  refine ⟨c.stream, _, Moment.attached_of_ok hok hkey, hmade, ?_, ?_, ?_⟩
  · rw [haccepted, List.append_nil, ← hreplay, publishedOn_step, List.map_append]
    exact fun e he => List.mem_append_left _ (hpublished e he)
  · rw [hframes]
    exact List.nil_prefix
  · refine fun _ _ => ⟨_, hcarries, ?_⟩
    rw [hframes, haccepted, List.nil_append, List.append_nil]

theorem Unused.step (hu : h.Unused number) (hs : h.server.Sound) (op : Op)
    (hattach : ∀ name lastEventId, op = .attach name lastEventId →
      (h.server.attach name lastEventId).2 ≠ .ok number) : (h.step op).Unused number := by
  refine ⟨h.server.connection?_step_of_none hs number op hu.closed hattach, ?_, ?_⟩
  · rw [emitted_step, hu.emitted, Moment.emitted_of_closed (m := h.moment op) hu.closed]
    rfl
  · rw [accepted_step, hu.accepted, Moment.accepted_of_closed (m := h.moment op) hu.closed]
    rfl

theorem Reachable.balances (hr : h.Reachable config) (number : Nat) :
    (h.origin number = none → h.Unused number) ∧
      ∀ key backlog, h.origin number = some (key, backlog) →
        h.Balances config number key backlog := by
  refine Continues.of_step hr
    (P := fun h => (h.origin number = none → h.Unused number) ∧
      ∀ key backlog, h.origin number = some (key, backlog) →
        h.Balances config number key backlog) ?_ ?_
  · exact ⟨fun _ => ⟨rfl, rfl, rfl⟩, fun key backlog horigin => nomatch horigin⟩
  · intro h hcontinues ⟨hunused, hbalances⟩ op
    have hrecorded : h.Recorded config := Reachable.recorded hcontinues
    rw [origin_step]
    cases horigin : h.origin number with
    | some origin =>
      obtain ⟨key, backlog⟩ := origin
      refine ⟨nofun, ?_⟩
      rintro _ _ ⟨rfl, rfl⟩
      exact (hbalances key backlog horigin).step hrecorded op
    | none =>
      rw [Option.none_or]
      by_cases hok : ∃ name lastEventId, op = .attach name lastEventId ∧
          (h.server.attach name lastEventId).2 = .ok number
      · obtain ⟨name, lastEventId, rfl, hok⟩ := hok
        obtain ⟨key, backlog, hattached, hmade⟩ :=
          (hunused horigin).attach hrecorded name lastEventId hok
        rw [hattached]
        refine ⟨nofun, ?_⟩
        rintro _ _ ⟨rfl, rfl⟩
        exact hmade
      · have hattach : ∀ name lastEventId, op = .attach name lastEventId →
            (h.server.attach name lastEventId).2 ≠ .ok number :=
          fun name lastEventId hop heq => hok ⟨name, lastEventId, hop, heq⟩
        rw [Moment.attached_of_not (m := h.moment op) hattach]
        exact ⟨fun _ => (hunused horigin).step hrecorded.sound op hattach, nofun⟩

theorem emitted_of_stopped {m : Moment} (hstopped : m.server.stopped = true) (number : Nat) :
    m.emitted number = none := by
  have hpoll : ∀ n, (m.server.poll n).2 = .ended := by
    intro n
    cases hc : m.server.connection? n with
    | none => simp only [poll, hc]
    | some c => simp only [poll, hc, nextFrame, hstopped, if_true]
  unfold Moment.emitted
  split
  · rw [hpoll]
    exact ite_self none
  · rfl

/-- After the stop of a server nothing is written to any connection. -/
theorem Reachable.emitted_of_stop (hr : h.Reachable config) (number : Nat) (h' : History)
    (hcontinues : (h.step .stop).Continues h') : h'.emitted number = h.emitted number := by
  have hstopped : h'.server.Sound ∧ h'.server.stopped = true ∧
      h'.emitted number = h.emitted number := by
    refine Continues.of_step hcontinues
      (P := fun h' => h'.server.Sound ∧ h'.server.stopped = true ∧
        h'.emitted number = h.emitted number) ?_ ?_
    · refine ⟨hr.recorded.sound.step .stop, rfl, ?_⟩
      exact (h.emitted_step .stop number).trans (List.append_nil _)
    · intro h₁ _ ⟨hsound, hstopped, hemitted⟩ op
      refine ⟨hsound.step op, ?_, ?_⟩
      · by_cases hop : op = .stop
        · rw [hop]
          rfl
        · exact (h₁.server.step_frame hsound op hop).2.1.trans hstopped
      · have hnone := emitted_of_stopped (m := h₁.moment op) hstopped number
        rw [emitted_step, hnone, Option.toList_none, List.append_nil]
        exact hemitted
  exact hstopped.2.2

/-- A body ends by itself when the server was stopped, or when the stream was removed and nothing
is left to be sent. -/
theorem ended_cases (s : Server) (number : Nat) (c : Connection)
    (hc : s.connection? number = some c) (stream : EventStream) (sub : Subscription)
    (hstream : s.registry.stream? c.stream = some stream)
    (hsub : stream.subscription? c.subscriber = some sub)
    (hregistered : sub.registered = !stream.removed) (hended : (s.poll number).2 = .ended) :
    s.stopped = true ∨ stream.removed = true ∧ c.replay = [] ∧ sub.queue = [] := by
  have hsays := s.says_nextFrame c stream sub hstream hsub hregistered
  generalize hnext : s.nextFrame c = next at hsays
  cases hsays with
  | stopped hstopped => exact Or.inl hstopped
  | closed hrunning hreplay hqueue hremoved => exact Or.inr ⟨hremoved, hreplay, hqueue⟩
  | replayed hrunning e rest hreplay =>
    rw [s.poll_of_ne_ended number c _ _ _ hc hnext nofun] at hended
    cases hended
  | queued hrunning hreplay e rest hqueue =>
    rw [s.poll_of_ne_ended number c _ _ _ hc hnext nofun] at hended
    cases hended
  | idle hrunning hreplay hqueue hremoved since polled hpolled =>
    rw [s.poll_of_ne_ended number c _ _ _ hc hnext (by rcases hpolled with rfl | rfl <;> nofun)]
      at hended
    rcases hpolled with rfl | rfl <;> cases hended

/-- Nothing is written to a connection before it is attached. From then on the frames written to
it, without the keep-alives, are in order the first events of its backlog and of what was published
since on its stream object and found room; while it is open, what it still holds are the
others. Its body ends by itself when the server was stopped, or when its stream was removed and
all was sent. After the stop nothing is written any more. -/
theorem connection_ledger (config : ServerConfig) (h : History) (hr : h.Reachable config)
    (number : Nat) :
    (h.origin number = none →
      h.server.connection? number = none ∧ h.emitted number = []) ∧
      (∀ key backlog, h.origin number = some (key, backlog) →
        (∀ e ∈ backlog ++ h.accepted number, e ∈ (h.publishedOn key).map (·.event)) ∧
        h.frames number <+:
          (backlog ++ h.accepted number).map (Frame.encode config.base64) ∧
        ∀ c, h.server.connection? number = some c → ∃ stream sub,
          c.stream = key ∧ h.server.registry.stream? key = some stream ∧
          stream.subscription? c.subscriber = some sub ∧
          h.frames number ++ (c.replay ++ sub.queue).map (Frame.encode config.base64) =
            (backlog ++ h.accepted number).map (Frame.encode config.base64) ∧
          ((h.server.poll number).2 = .ended →
            h.server.stopped = true ∨ stream.removed = true ∧ c.replay = [] ∧ sub.queue = [])) ∧
      ∀ h', (h.step .stop).Continues h' → h'.emitted number = h.emitted number := by
  obtain ⟨hunused, hbalances⟩ := hr.balances number
  refine ⟨?_, ?_, hr.emitted_of_stop number⟩
  · intro horigin
    exact ⟨(hunused horigin).closed, (hunused horigin).emitted⟩
  · intro key backlog horigin
    have hb := hbalances key backlog horigin
    refine ⟨hb.known, hb.sent, ?_⟩
    intro c hc
    obtain ⟨held, hcarries, hbalance⟩ := hb.carries c hc
    obtain ⟨c', queue, hc', rfl, hholds, rfl⟩ := hcarries.found
    obtain rfl : c' = c := Option.some.inj (hc'.symm.trans hc)
    obtain ⟨stream, sub, hstream, hsub, rfl, hregistered⟩ := hholds.found
    exact ⟨stream, sub, rfl, hstream, hsub, hbalance,
      ended_cases h.server number c' hc stream sub hstream hsub hregistered⟩

/-- The connection is given `a`, is kept alive, and takes `b`. Then its stream is removed, and a
new one of the same name has `c`. -/
def superseded : History :=
  ofOps {} [.createStream "news", .publish "news" { data := [97] }, .attach "news" [],
    .poll 0, .poll 0, .advance (.ofMillis 15000), .poll 0, .publish "news" { data := [98] },
    .removeStream "news", .createStream "news", .publish "news" { data := [99] }]

theorem connection_ledger_superseded :
    superseded.Reachable {} ∧ superseded.origin 0 = some (0, [{ id := [49], data := [97] }]) ∧
      superseded.emitted 0 =
        [Frame.encode false { id := [49], data := [97] }, Frame.keepAlive] ∧
      ∃ c stream sub, superseded.server.connection? 0 = some c ∧
        superseded.server.registry.stream? 0 = some stream ∧
        stream.subscription? c.subscriber = some sub ∧
        superseded.frames 0 ++ (c.replay ++ sub.queue).map (Frame.encode false) =
          [{ id := [49], data := [97] }, { id := [50], data := [98] }].map (Frame.encode false) := by
  let c : Connection := { stream := 0, subscriber := 1, replay := [] }
  have hr : superseded.Reachable {} := reachable_ofOps _ _
  have horigin : superseded.origin 0 = some (0, [{ id := [49], data := [97] }]) := by
    decide +kernel
  have haccepted : superseded.accepted 0 = [{ id := [50], data := [98] }] := by decide +kernel
  have hc : superseded.server.connection? 0 = some c := by decide +kernel
  obtain ⟨_, hbooks, _⟩ := connection_ledger {} superseded hr 0
  obtain ⟨_, _, hopen⟩ := hbooks 0 _ horigin
  obtain ⟨stream, sub, _, hstream, hsub, hbalance, _⟩ := hopen c hc
  rw [haccepted] at hbalance
  exact ⟨hr, horigin, by decide +kernel, c, stream, sub, hc, hstream, hsub, hbalance⟩

end History

end EventBroker.Server
