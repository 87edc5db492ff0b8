import EventBroker.Proofs.EventStream.Registered
import EventBroker.Proofs.Server.Ledger

/-!
The streams of a server in the course of its operations. How a stream object came into
being is settled by the operation that made it: an explicit creation that finds a stream
which a publish or a request made leaves it as it is. The subscribers of a stream have ids
of their own, and an open connection has a subscriber that is registered as long as its
stream is not removed.
-/
namespace EventBroker

namespace Registry

/-- What a look-up that may make its stream comes to, with one step of this stream or without. -/
inductive Resolved (r : Registry) (auto : Bool) : Registry → Prop
  | same : Resolved r auto r
  | found {r' : Registry} {name : String} {key : Nat} (hi : r.Inserted name auto r' key) :
      Resolved r auto r'
  | performed {r' : Registry} {name : String} {key : Nat} (hi : r.Inserted name auto r' key)
      (now : Nat) (op : EventStream.Op) : Resolved r auto (r'.perform key now op)

namespace Resolved

variable {r r' : Registry} {auto : Bool}

theorem key?_of_some (h : r.Resolved auto r') {name : String} {key : Nat}
    (hkey : r.key? name = some key) : r'.key? name = some key := by
  cases h with
  | same => exact hkey
  | found hi => exact hi.key?_of_some hkey
  | performed hi now op => exact hi.key?_of_some hkey

/-- A stream that was made shows by its mark how it was asked for. -/
theorem auto_eq (h : r.Resolved auto r') {key : Nat} {stream : EventStream}
    (hnone : r.stream? key = none) (hstream : r'.stream? key = some stream) :
    stream.auto = auto := by
  have hmade : ∀ {r₁ : Registry} {name : String} {k : Nat} {old : EventStream},
      r.Inserted name auto r₁ k → r₁.stream? key = some old → old.auto = auto := by
    intro r₁ name k old hi hold
    rcases hi.only key old hold with hbefore | ⟨_, _, rfl⟩
    · cases hnone.symm.trans hbefore
    · rfl
  cases h with
  | same => cases hnone.symm.trans hstream
  | found hi => exact hmade hi hstream
  | @performed r₁ _ k hi now op =>
    rw [stream?_perform] at hstream
    split at hstream
    · obtain ⟨old, hold, rfl⟩ := Option.map_eq_some_iff.mp hstream
      exact (old.perform_auto now op).trans (hmade hi hold)
    · exact hmade hi hstream

end Resolved

end Registry

namespace Server

/-- Whether an operation makes the stream that it does not find without being asked for one. -/
def Op.isImplicit : Op → Bool
  | .publish _ _ | .attach _ _ => true
  | .createStream _ | .removeStream _ | .poll _ | .disconnect _ | .advance _ | .stop => false

def Moment.makes (key : Nat) (m : Moment) : Bool :=
  (m.server.registry.stream? key).isNone && (m.after.registry.stream? key).isSome

/-- Whether a stream object came into being with a publish or a request. -/
def History.implicit (h : History) (key : Nat) : Bool :=
  h.past.any fun m => m.makes key && m.op.isImplicit

/-- An operation that neither removes streams nor serves a connection looks at most one name
up. -/
theorem resolved_step (s : Server) (hs : s.registry.Sound) (op : Op)
    (hremove : ∀ name, op ≠ .removeStream name) (hstop : op ≠ .stop)
    (hown : ¬∃ number, op = .poll number ∨ op = .disconnect number) :
    s.registry.Resolved op.isImplicit (s.step op).registry := by
  cases op with
  | createStream name => exact .found (s.registry.inserted_insert name false)
  | publish name e =>
    rcases s.publish_cases hs name e with ⟨r, key, _, hi, _, hpublish⟩ | ⟨_, hpublish⟩
    · rw [step, hpublish]
      exact .performed hi s.now (.publish e)
    · rw [step, hpublish]
      exact .same
  | attach name lastEventId =>
    rcases s.attach_cases hs name lastEventId with
      ⟨r, key, _, hi, _, ⟨fault, hattach⟩ | ⟨subscriber, replay, _, hattach⟩⟩ | ⟨_, hattach⟩
    · rw [step, hattach]
      exact .performed hi s.now (.subscribe lastEventId)
    · rw [step, hattach, opened, call_eq]
      exact .performed hi s.now (.subscribe lastEventId)
    · rw [step, hattach]
      exact .same
  | removeStream name => exact absurd rfl (hremove name)
  | poll number => exact (hown ⟨number, Or.inl rfl⟩).elim
  | disconnect number => exact (hown ⟨number, Or.inr rfl⟩).elim
  | advance d => exact .same
  | stop => exact absurd rfl hstop

/-- A stream that an operation makes shows by its mark which kind of operation it was. -/
theorem auto_of_made (s : Server) (hs : s.registry.Sound) (op : Op) (key : Nat)
    (stream : EventStream) (hnone : s.registry.stream? key = none)
    (hstream : (s.step op).registry.stream? key = some stream) :
    stream.auto = op.isImplicit := by
  have hnothing : (s.step op).registry.stream? key = none → stream.auto = op.isImplicit := by
    intro hafter
    cases hafter.symm.trans hstream
  by_cases hown : ∃ number, op = .poll number ∨ op = .disconnect number
  · apply hnothing
    obtain ⟨number, hop⟩ := hown
    rcases s.step_connection number op hop with ⟨_, hsame⟩ | ⟨c, _, hattended⟩
    · rw [hsame]
      exact hnone
    · exact hattended.served.unused key hnone
  · by_cases hremove : ∃ name, op = .removeStream name
    · apply hnothing
      obtain ⟨name, rfl⟩ := hremove
      simp only [step, removeStream, Registry.remove]
      cases s.registry.key? name with
      | none => exact hnone
      | some k => exact s.registry.stream?_perform_eq_none k key 0 .remove hnone
    · by_cases hstop : op = .stop
      · apply hnothing
        rw [hstop]
        exact Registry.foldl_removePair_unused s.registry.names s.registry key hnone
      · have hresolved := s.resolved_step hs op (not_exists.mp hremove) hstop hown
        exact hresolved.auto_eq hnone hstream

namespace History

variable {config : ServerConfig} {h : History}

theorem implicit_step (h : History) (op : Op) (key : Nat) :
    (h.step op).implicit key = (h.implicit key || (h.moment op).makes key && op.isImplicit) := by
  rw [implicit, step, List.any_append, List.any_cons, List.any_nil, Bool.or_false]
  rfl

/-- What was there before an operation is not made by it. -/
theorem implicit_step_of_stream? (h : History) (op : Op) (key : Nat) (stream : EventStream)
    (hstream : h.server.registry.stream? key = some stream) :
    (h.step op).implicit key = h.implicit key := by
  have hmakes : (h.moment op).makes key = false := by
    rw [Moment.makes, moment, hstream]
    rfl
  rw [implicit_step, hmakes, Bool.false_and, Bool.or_false]

structure Made (h : History) : Prop where
  auto_eq : ∀ key stream, h.server.registry.stream? key = some stream →
    stream.auto = h.implicit key
  unused : ∀ key, h.server.registry.stream? key = none → h.implicit key = false
  distinct : ∀ key stream, h.server.registry.stream? key = some stream → stream.IdsDistinct

theorem Made.step (hm : h.Made) (hs : h.server.Sound) (op : Op) : (h.step op).Made := by
  have hreaches := h.server.reaches_step hs.registry op
  refine ⟨?_, ?_, ?_⟩
  · intro key stream hstream
    cases hbefore : h.server.registry.stream? key with
    | some old =>
      rw [h.implicit_step_of_stream? op key old hbefore, ← hm.auto_eq key old hbefore]
      exact hreaches.auto_eq key old stream hbefore hstream
    | none =>
      have hmakes : (h.moment op).makes key = true := by
        have hafter : (h.moment op).after.registry.stream? key = some stream := hstream
        rw [Moment.makes, hafter, moment, hbefore]
        rfl
      rw [implicit_step, hm.unused key hbefore, hmakes, Bool.false_or, Bool.true_and]
      exact auto_of_made h.server hs.registry op key stream hbefore hstream
  · intro key hnone
    have hmakes : (h.moment op).makes key = false := by
      have hafter : (h.moment op).after.registry.stream? key = none := hnone
      rw [Moment.makes, hafter, Option.isSome_none, Bool.and_false]
    rw [implicit_step, hm.unused key (hreaches.unused key hnone), hmakes, Bool.false_and,
      Bool.or_false]
  · refine hreaches.streams hm.distinct ?_ ?_
    · exact fun _ name auto _ => EventStream.idsDistinct_new name _ auto
    · exact fun _ stream now o _ hdistinct => hdistinct.perform now o

theorem Reachable.made (hr : h.Reachable config) : h.Made := by
  refine Continues.of_step hr (P := Made) ?_ ?_
  · refine ⟨?_, fun _ _ => rfl, ?_⟩
    · intro key stream hstream
      cases hstream
    · intro key stream hstream
      cases hstream
  · intro h hcontinues hm op
    have hrecorded : h.Recorded config := Reachable.recorded hcontinues
    exact hm.step hrecorded.sound op

/-- An open connection has a subscriber, which is registered until the stream is removed. -/
theorem Reachable.attached (hr : h.Reachable config) (number : Nat) (c : Connection)
    (hc : h.server.connection? number = some c) :
    ∃ stream, h.server.registry.stream? c.stream = some stream ∧
      stream.isRegistered c.subscriber = !stream.removed := by
  obtain ⟨hunused, hbalances⟩ := hr.balances number
  cases horigin : h.origin number with
  | none => cases (hunused horigin).closed.symm.trans hc
  | some origin =>
    obtain ⟨held, hcarries, _⟩ := (hbalances origin.1 origin.2 horigin).carries c hc
    obtain ⟨c', queue, hc', hkey, hholds, _⟩ := hcarries.found
    obtain rfl : c' = c := Option.some.inj (hc'.symm.trans hc)
    obtain ⟨stream, sub, hstream, hsub, _, hregistered⟩ := hholds.found
    rw [← hkey] at hstream
    refine ⟨stream, hstream, ?_⟩
    rw [EventStream.isRegistered, hsub, Option.any_some, hregistered]

end History

end Server

end EventBroker
