import EventBroker.Proofs.Server.Part

/-!
Streams of different names do not disturb each other. From all that is asked of a server what is
addressed to other names can be left out, and nothing changes for one name: what is answered, what
its connections write and when they end, the events as they are published, the stream that is
found under the name, and the calls of hooks that tell of it. Time and the stop of the server
concern all names.
-/
namespace EventBroker.Server

open Http

inductive Act
  | operation (op : Op)
  | request (routes : Routes) (r : Request)
  deriving Repr, DecidableEq

/-- What is answered. The number of a connection is left out, since connections of other names
count in it. -/
inductive Answer
  | done
  | removed (found : Bool)
  | published (accepted : Bool)
  | attached (fault : Option SubscribeFault)
  | polled (what : Polled)
  | replied (reply : Reply) (goesOn : Bool)
  | broken (cause : SubscribeFault)
  deriving Repr, DecidableEq

def answerOf : Served → Answer
  | .whole reply => .replied reply false
  | .opened reply _ => .replied reply true
  | .broken cause => .broken cause

def Op.answer (s : Server) : Op → Answer
  | .createStream _ | .disconnect _ | .advance _ | .stop => .done
  | .removeStream name => .removed (s.removeStream name).2
  | .publish name e => .published (s.publish name e).2
  | .attach name lastEventId =>
    match (s.attach name lastEventId).2 with
    | .ok _ => .attached none
    | .error fault => .attached (some fault)
  | .poll number => .polled (s.poll number).2

namespace Act

def answer (s : Server) : Act → Answer
  | .operation op => op.answer s
  | .request routes r => answerOf (s.handle routes r).2

def ops (s : Server) : Act → List Op
  | .operation op => [op]
  | .request routes r => s.requestOps routes r

def published (s : Server) (a : Act) : Option Stored :=
  (a.ops s).head?.bind fun op => (Moment.mk s op).publication.map (·.2)

end Act

/-- What there is to see of a name: the stream that it leads to, and the calls of hooks. -/
structure View where
  stream : Option EventStream
  calls : List HookCall
  deriving Repr, DecidableEq

def view (s : Server) (name : String) : View :=
  { stream := s.registry.get? name, calls := s.calls.filter (·.name == name) }

structure Observation where
  answer : Answer
  published : Option Stored
  view : View
  deriving Repr, DecidableEq

/-- A server on its way, and the names of the connections made so far, by number. -/
structure Walk where
  server : Server
  made : List String := []
  deriving Repr, DecidableEq

namespace Walk

def step (w : Walk) (op : Op) : Walk :=
  { server := w.server.step op, made := w.made ++ op.makes w.server }

def act (w : Walk) (a : Act) : Walk := (a.ops w.server).foldl step w

def run (w : Walk) (acts : List Act) : Walk := acts.foldl act w

theorem server_foldl (w : Walk) (ops : List Op) :
    (ops.foldl step w).server = ops.foldl Server.step w.server := by
  induction ops generalizing w with
  | nil => rfl
  | cons op ops ih => exact ih (w.step op)

/-- A request leads where the answer to it leads. -/
theorem server_request (w : Walk) (routes : Routes) (r : Request) :
    (w.act (.request routes r)).server = (w.server.handle routes r).1 :=
  (w.server_foldl _).trans (w.server.handle_fst routes r).symm

end Walk

def requestedName (routes : Routes) (r : Request) : Option String :=
  match (routes.endpoints r.path).find? (·.methods.contains r.method) with
  | none => none
  | some .publish => (postedEvent r).map (·.1)
  | some .stream => (requestedStream r).map (·.1)

def Op.isShared : Op → Bool
  | .advance _ | .stop => true
  | .createStream _ | .removeStream _ | .publish _ _ | .attach _ _ | .poll _
  | .disconnect _ => false

def Op.concerns (name : String) (made : List String) (op : Op) : Bool :=
  op.isShared || op.addressee made == some name

theorem Op.concerns_of_addressee {name : String} {made : List String} {op : Op}
    (h : op.addressee made = some name) : op.concerns name made = true := by
  rw [Op.concerns, h, beq_self_eq_true, Bool.or_true]

/-- The operation with the number that a connection has among those of its name. -/
def Op.within (name : String) (made : List String) : Op → Op
  | .poll number => .poll (rank made name number)
  | .disconnect number => .disconnect (rank made name number)
  | .createStream n => .createStream n
  | .removeStream n => .removeStream n
  | .publish n e => .publish n e
  | .attach n lastEventId => .attach n lastEventId
  | .advance d => .advance d
  | .stop => .stop

namespace Act

def concerns (name : String) (made : List String) : Act → Bool
  | .operation op => op.concerns name made
  | .request routes r => (requestedName routes r).all (· == name)

def within (name : String) (made : List String) : Act → Act
  | .operation op => .operation (op.within name made)
  | .request routes r => .request routes r

end Act

def restrict (name : String) : Walk → List Act → List Act
  | _, [] => []
  | w, a :: acts =>
    if a.concerns name w.made then a.within name w.made :: restrict name (w.act a) acts
    else restrict name (w.act a) acts

/-- What there is to see for a name of the acts that are not addressed to another one. -/
def observed (name : String) : Walk → List Act → List Observation
  | _, [] => []
  | w, a :: acts =>
    if a.concerns name w.made then
      { answer := a.answer w.server, published := a.published w.server,
        view := (w.act a).server.view name } :: observed name (w.act a) acts
    else observed name (w.act a) acts

structure Divides (name : String) (w v : Walk) : Prop where
  whole : w.server.Filed w.made
  own : v.server.Filed v.made
  made : v.made = w.made.filter (· == name)
  part : Part name w.made w.server v.server

namespace Divides

variable {name : String} {w v : Walk}

theorem view_eq (h : Divides name w v) : v.server.view name = w.server.view name := by
  have hcalls : v.server.calls.filter (·.name == name) =
      w.server.calls.filter (·.name == name) := by
    rw [h.part.calls, List.filter_filter]
    simp only [Bool.and_self]
  rw [view, view, hcalls, h.part.registry, h.whole.labelled.get?_only name]

/-- What is addressed to another name leaves the part alone. -/
theorem step_other (h : Divides name w v) (op : Op)
    (hop : op.concerns name w.made = false) : Divides name (w.step op) v := by
  have hwhole : (w.step op).server.Filed (w.step op).made := h.whole.step op
  rw [Op.concerns, Bool.or_eq_false_iff, beq_eq_false_iff_ne] at hop
  cases haddressee : op.addressee w.made with
  | some n =>
    have hn : n ≠ name := fun heq => hop.2 (by rw [haddressee, heq])
    have hconfined := w.server.confined_step w.made h.whole op n haddressee
    refine ⟨hwhole, h.own, ?_, h.part.of_confined h.whole hconfined hn⟩
    have hnone : (op.makes w.server).filter (· == name) = [] := by
      rw [List.filter_eq_nil_iff]
      intro m hm
      rw [hconfined.names m hm, beq_iff_eq]
      exact hn
    rw [h.made, Walk.step, List.filter_append, hnone, List.append_nil]
  | none =>
    -- The number of a connection that was never made.
    have hstep : w.step op = w := by
      cases op with
      | poll number =>
        rw [Walk.step, h.whole.step_of_unmade number haddressee _ (Or.inl rfl), Op.makes,
          List.append_nil]
      | disconnect number =>
        rw [Walk.step, h.whole.step_of_unmade number haddressee _ (Or.inr rfl), Op.makes,
          List.append_nil]
      | advance | stop => cases hop.1
      | createStream | removeStream | publish | attach => cases haddressee
    rw [hstep]
    exact h

/-- Divided walks go on divided, also with a new connection of the name. -/
theorem of_part (h : Divides name w v) (op op' : Op) (more : List String)
    (hmakes : op.makes w.server = more) (hmakes' : op'.makes v.server = more)
    (hmore : ∀ m ∈ more, m = name)
    (hpart : Part name (w.made ++ more) (w.server.step op) (v.server.step op')) :
    Divides name (w.step op) (v.step op') := by
  have hall : more.filter (· == name) = more := by
    rw [List.filter_eq_self]
    exact fun m hm => beq_iff_eq.mpr (hmore m hm)
  subst hmakes
  refine ⟨h.whole.step op, h.own.step op', ?_, hpart⟩
  rw [Walk.step, Walk.step, List.filter_append, hall, hmakes', h.made]

theorem quiet (h : Divides name w v) (op op' : Op) (hmakes : op.makes w.server = [])
    (hmakes' : op'.makes v.server = [])
    (hpart : Part name w.made (w.server.step op) (v.server.step op')) :
    Divides name (w.step op) (v.step op') := by
  refine h.of_part op op' [] hmakes hmakes' nofun ?_
  rw [List.append_nil]
  exact hpart

/-- An attach fails alike, or the next connection is made in both. -/
theorem attach (h : Divides name w v) (lastEventId : Bytes) :
    Divides name (w.step (.attach name lastEventId)) (v.step (.attach name lastEventId)) ∧
      ((∃ fault, (w.server.attach name lastEventId).2 = .error fault ∧
          (v.server.attach name lastEventId).2 = .error fault) ∨
        (w.server.attach name lastEventId).2 = .ok w.made.length ∧
          (v.server.attach name lastEventId).2 = .ok v.made.length) := by
  have hown := h.own
  rw [h.made] at hown
  rcases h.part.attach h.whole hown lastEventId with
    ⟨fault, hfault, hfault', hpart⟩ | ⟨hok, hok', hpart⟩
  · refine ⟨h.quiet _ _ ?_ ?_ hpart, Or.inl ⟨fault, hfault, hfault'⟩⟩
    · rw [Op.makes, hfault]
    · rw [Op.makes, hfault']
  · rw [h.whole.next] at hok
    rw [h.own.next] at hok'
    refine ⟨h.of_part _ _ [name] ?_ ?_ (fun m => List.mem_singleton.mp) hpart, Or.inr ⟨hok, hok'⟩⟩
    · rw [Op.makes, hok]
    · rw [Op.makes, hok']

theorem attach_answer (h : Divides name w v) (lastEventId : Bytes) :
    (Op.attach name lastEventId).answer v.server =
      (Op.attach name lastEventId).answer w.server := by
  rcases (h.attach lastEventId).2 with ⟨fault, hfault, hfault'⟩ | ⟨hok, hok'⟩
  · rw [Op.answer, Op.answer, hfault, hfault']
  · rw [Op.answer, Op.answer, hok, hok']

theorem rank_addressee (h : Divides name w v) {number : Nat}
    (hnumber : w.made[number]? = some name) : v.made[rank w.made name number]? = some name := by
  rw [h.made]
  exact getElem?_rank w.made name number hnumber

/-- What is addressed to the name does the same to the part, and is answered the same. -/
theorem step_own (h : Divides name w v) (op : Op) (hop : op.concerns name w.made = true) :
    Divides name (w.step op) (v.step (op.within name w.made)) ∧
      (op.within name w.made).answer v.server = op.answer w.server ∧
      (Moment.mk v.server (op.within name w.made)).publication.map (·.2) =
        (Moment.mk w.server op).publication.map (·.2) ∧
      (op.within name w.made).concerns name v.made = true := by
  have hown := h.own
  rw [h.made] at hown
  rw [Op.concerns, Bool.or_eq_true, beq_iff_eq] at hop
  rcases hop with hshared | haddressee
  · cases op with
    | advance d => exact ⟨h.quiet _ _ rfl rfl (h.part.advance d), rfl, rfl, rfl⟩
    | stop => exact ⟨h.quiet _ _ rfl rfl (h.part.stop h.whole), rfl, rfl, rfl⟩
    | createStream | removeStream | publish | attach | poll | disconnect => cases hshared
  · cases op with
    | createStream n =>
      obtain rfl : n = name := Option.some.inj haddressee
      exact ⟨h.quiet _ _ rfl rfl (h.part.createStream h.whole), rfl, rfl,
        Op.concerns_of_addressee rfl⟩
    | removeStream n =>
      obtain rfl : n = name := Option.some.inj haddressee
      obtain ⟨hpart, hanswer⟩ := h.part.removeStream h.whole
      exact ⟨h.quiet _ _ rfl rfl hpart, congrArg Answer.removed hanswer, rfl,
        Op.concerns_of_addressee rfl⟩
    | publish n e =>
      obtain rfl : n = name := Option.some.inj haddressee
      obtain ⟨hpart, hanswer⟩ := h.part.publish h.whole e
      exact ⟨h.quiet _ _ rfl rfl hpart, congrArg Answer.published hanswer,
        h.part.publication h.whole e, Op.concerns_of_addressee rfl⟩
    | attach n lastEventId =>
      obtain rfl : n = name := Option.some.inj haddressee
      exact ⟨(h.attach lastEventId).1, h.attach_answer lastEventId, rfl,
        Op.concerns_of_addressee rfl⟩
    | poll number =>
      obtain ⟨hpart, hanswer⟩ := h.part.poll h.whole hown haddressee
      exact ⟨h.quiet _ _ rfl rfl hpart, congrArg Answer.polled hanswer, rfl,
        Op.concerns_of_addressee (h.rank_addressee haddressee)⟩
    | disconnect number =>
      have hpart := h.part.disconnect h.whole hown haddressee
      exact ⟨h.quiet _ _ rfl rfl hpart, rfl, rfl,
        Op.concerns_of_addressee (h.rank_addressee haddressee)⟩
    | advance | stop => cases haddressee

end Divides

/-- Requests to publish are answered the same where the publications are. -/
theorem servePublish_congr (s t : Server) (r : Request)
    (h : ∀ name e, postedEvent r = some (name, e) → (t.publish name e).2 = (s.publish name e).2) :
    (t.servePublish r).2 = (s.servePublish r).2 := by
  unfold servePublish
  unfold postedEvent at h
  cases hfields : Form.readFields ["stream", "id", "event"] r.query with
  | error fault => rfl
  | ok fields =>
    rw [hfields] at h
    simp only at h ⊢
    cases hname : fields.lookup "stream" with
    | none => rfl
    | some name =>
      rw [hname] at h
      simp only at h ⊢
      split
      · rfl
      · next hsize =>
        rw [if_neg hsize] at h
        have hanswer := h _ _ rfl
        generalize t.publish _ _ = answer at hanswer ⊢
        generalize s.publish _ _ = answer' at hanswer ⊢
        obtain ⟨_, accepted⟩ := answer
        obtain ⟨_, accepted'⟩ := answer'
        obtain rfl : accepted = accepted' := hanswer
        cases accepted <;> rfl

/-- Requests for a stream are answered the same where the attachments are. -/
theorem serveStream_congr (s t : Server) (r : Request)
    (h : ∀ name lastEventId, requestedStream r = some (name, lastEventId) →
      (t.attach name lastEventId).1.config = (s.attach name lastEventId).1.config ∧
      (Op.attach name lastEventId).answer t = (Op.attach name lastEventId).answer s) :
    answerOf (t.serveStream r).2 = answerOf (s.serveStream r).2 := by
  unfold serveStream
  unfold requestedStream at h
  cases hfields : Form.readFields ["stream"] r.query with
  | error fault => rfl
  | ok fields =>
    rw [hfields] at h
    simp only at h ⊢
    by_cases hname : ((fields.lookup "stream").getD "").isEmpty = true
    · rw [if_pos hname, if_pos hname]
    · rw [if_neg hname] at h ⊢
      rw [if_neg hname]
      have hsame := h _ _ rfl
      simp only [Op.answer] at hsame
      generalize t.attach _ _ = answer at hsame ⊢
      generalize s.attach _ _ = answer' at hsame ⊢
      obtain ⟨t', fault | number⟩ := answer <;> obtain ⟨s', fault' | number'⟩ := answer' <;>
        obtain ⟨hconfig, hanswer⟩ := hsame
      · obtain rfl : fault = fault' := Option.some.inj (Answer.attached.inj hanswer)
        cases fault <;> rfl
      · cases hanswer
      · cases hanswer
      · have hheaders : t'.config.streamHeaders = s'.config.streamHeaders :=
          congrArg ServerConfig.streamHeaders hconfig
        simp only [answerOf, hheaders]

/-- A request is answered the same where the name that it asks for answers the same. -/
theorem handle_congr (s t : Server) (routes : Routes) (r : Request)
    (hpublish : ∀ name e, requestedName routes r = some name →
      (t.publish name e).2 = (s.publish name e).2)
    (hattach : ∀ name lastEventId, requestedName routes r = some name →
      (t.attach name lastEventId).1.config = (s.attach name lastEventId).1.config ∧
      (Op.attach name lastEventId).answer t = (Op.attach name lastEventId).answer s) :
    answerOf (t.handle routes r).2 = answerOf (s.handle routes r).2 := by
  unfold requestedName at hpublish hattach
  cases hendpoint : (routes.endpoints r.path).find? (·.methods.contains r.method) with
  | none =>
    simp only [handle, hendpoint]
    split <;> rfl
  | some endpoint =>
    rw [hendpoint] at hpublish hattach
    cases endpoint with
    | publish =>
      have hserve := servePublish_congr s t r fun name e hposted => by
        apply hpublish name e
        simp only [hposted, Option.map_some]
      simp only [handle, hendpoint]
      exact congrArg (Answer.replied · false) hserve
    | stream =>
      have hserve := serveStream_congr s t r fun name lastEventId hrequested => by
        apply hattach name lastEventId
        simp only [hrequested, Option.map_some]
      simp only [handle, hendpoint]
      generalize t.serveStream r = answer at hserve ⊢
      generalize s.serveStream r = answer' at hserve ⊢
      obtain ⟨t', served⟩ := answer
      obtain ⟨s', served'⟩ := answer'
      cases served <;> cases served' <;> cases hserve <;> cases r.method == "HEAD" <;> rfl

namespace Divides

variable {name : String} {w v : Walk}

/-- A connection made for a request is the last one. -/
theorem made_attach (hw : w.server.Filed w.made) (n : String) (lastEventId : Bytes) (number : Nat)
    (hok : (w.server.attach n lastEventId).2 = .ok number) :
    number = w.made.length ∧ (w.step (.attach n lastEventId)).made = w.made ++ [n] := by
  refine ⟨?_, by rw [Walk.step, Op.makes, hok]⟩
  obtain ⟨r, _, ⟨fault, hattach⟩ | ⟨c, _, hattach⟩⟩ :=
    w.server.attach_outcome hw.sound hw.labelled n lastEventId
  · rw [hattach] at hok
    cases hok
  · rw [hattach] at hok
    exact (Except.ok.inj hok).symm.trans hw.next

theorem request_other (h : Divides name w v) (routes : Routes) (r : Request) (n : String)
    (hname : requestedName routes r = some n) (hn : n ≠ name) :
    Divides name (w.act (.request routes r)) v := by
  have hother : ∀ {u : Walk} {op : Op}, Divides name u v → op.isShared = false →
      op.addressee u.made = some n → Divides name (u.step op) v := by
    intro u op hu hshared haddressee
    apply hu.step_other
    rw [Op.concerns, hshared, haddressee, Bool.false_or, beq_eq_false_iff_ne]
    exact fun heq => hn (Option.some.inj heq)
  unfold requestedName at hname
  rw [Walk.act, Act.ops, requestOps]
  cases hendpoint : (routes.endpoints r.path).find? (·.methods.contains r.method) with
  | none =>
    rw [hendpoint] at hname
    cases hname
  | some endpoint =>
    rw [hendpoint] at hname
    cases endpoint with
    | publish =>
      obtain ⟨⟨m, e⟩, hposted, rfl⟩ := Option.map_eq_some_iff.mp hname
      simp only [hposted]
      exact hother h rfl rfl
    | stream =>
      obtain ⟨⟨m, lastEventId⟩, hrequested, rfl⟩ := Option.map_eq_some_iff.mp hname
      have hattached : Divides name (w.step (.attach m lastEventId)) v := hother h rfl rfl
      simp only [hrequested]
      split
      · next number _ hok =>
        obtain ⟨rfl, hmade⟩ := made_attach h.whole m lastEventId number hok
        refine hother hattached rfl ?_
        rw [Op.addressee, hmade, List.getElem?_concat_length]
      · exact hattached

theorem request_own (h : Divides name w v) (routes : Routes) (r : Request)
    (hname : (requestedName routes r).all (· == name) = true) :
    Divides name (w.act (.request routes r)) (v.act (.request routes r)) ∧
      (Act.request routes r).published v.server = (Act.request routes r).published w.server := by
  unfold requestedName at hname
  rw [Walk.act, Walk.act, Act.published, Act.published, Act.ops, Act.ops, requestOps, requestOps]
  cases hendpoint : (routes.endpoints r.path).find? (·.methods.contains r.method) with
  | none => exact ⟨h, rfl⟩
  | some endpoint =>
    rw [hendpoint] at hname
    cases endpoint with
    | publish =>
      cases hposted : postedEvent r with
      | none => exact ⟨h, rfl⟩
      | some posted =>
        obtain ⟨n, e⟩ := posted
        simp only [hposted, Option.map_some, Option.all_some, beq_iff_eq] at hname
        obtain rfl : n = name := hname
        obtain ⟨hstep, _, hpublication, _⟩ :=
          h.step_own (.publish n e) (Op.concerns_of_addressee rfl)
        exact ⟨hstep, hpublication⟩
    | stream =>
      cases hrequested : requestedStream r with
      | none => exact ⟨h, rfl⟩
      | some requested =>
        obtain ⟨n, lastEventId⟩ := requested
        simp only [hrequested, Option.map_some, Option.all_some, beq_iff_eq] at hname
        obtain rfl : n = name := hname
        obtain ⟨hattach, hnumbers⟩ := h.attach lastEventId
        rcases hnumbers with ⟨fault, hfault, hfault'⟩ | ⟨hok, hok'⟩
        · simp only [hfault, hfault']
          cases r.method == "HEAD" <;> exact ⟨hattach, rfl⟩
        · simp only [hok, hok']
          cases r.method == "HEAD" with
          | false => exact ⟨hattach, rfl⟩
          | true =>
            obtain ⟨_, hmade⟩ := made_attach h.whole n lastEventId _ hok
            have hlast : (w.step (.attach n lastEventId)).made[w.made.length]? = some n := by
              rw [hmade, List.getElem?_concat_length]
            have hrank : rank (w.step (.attach n lastEventId)).made n w.made.length =
                v.made.length := by
              rw [hmade, rank_append w.made [n] n _ (Nat.le_refl _), rank_all, h.made]
            have hdropped := hattach.step_own (.disconnect w.made.length)
              (Op.concerns_of_addressee hlast)
            rw [Op.within, hrank] at hdropped
            exact ⟨hdropped.1, rfl⟩

/-- What is not addressed to another name is answered the same by the part. -/
theorem act_own (h : Divides name w v) (a : Act) (ha : a.concerns name w.made = true) :
    Divides name (w.act a) (v.act (a.within name w.made)) ∧
      (a.within name w.made).answer v.server = a.answer w.server ∧
      (a.within name w.made).published v.server = a.published w.server ∧
      (a.within name w.made).concerns name v.made = true := by
  cases a with
  | operation op => exact h.step_own op ha
  | request routes r =>
    obtain ⟨hact, hpublished⟩ := h.request_own routes r ha
    have hown : ∀ n, requestedName routes r = some n → n = name := by
      intro n hn
      rw [Act.concerns, hn, Option.all_some, beq_iff_eq] at ha
      exact ha
    refine ⟨hact, handle_congr _ _ routes r ?_ ?_, hpublished, ha⟩
    · intro n e hn
      obtain rfl := hown n hn
      exact (h.part.publish h.whole e).2
    · intro n lastEventId hn
      obtain rfl := hown n hn
      exact ⟨(h.attach lastEventId).1.part.config, h.attach_answer lastEventId⟩

theorem act_other (h : Divides name w v) (a : Act) (ha : a.concerns name w.made = false) :
    Divides name (w.act a) v := by
  cases a with
  | operation op => exact h.step_other op ha
  | request routes r =>
    cases hname : requestedName routes r with
    | none =>
      rw [Act.concerns, hname] at ha
      cases ha
    | some n =>
      rw [Act.concerns, hname, Option.all_some, beq_eq_false_iff_ne] at ha
      exact h.request_other routes r n hname ha

theorem observed_restrict (h : Divides name w v) (acts : List Act) :
    observed name v (restrict name w acts) = observed name w acts ∧
      Divides name (w.run acts) (v.run (restrict name w acts)) := by
  induction acts generalizing w v with
  | nil => exact ⟨rfl, h⟩
  | cons a acts ih =>
    rw [restrict, observed]
    cases ha : a.concerns name w.made with
    | true =>
      obtain ⟨hact, hanswer, hpublished, hconcerns⟩ := h.act_own a ha
      obtain ⟨hrest, hrun⟩ := ih hact
      refine ⟨?_, hrun⟩
      rw [if_pos rfl, if_pos rfl, observed, if_pos hconcerns, hanswer, hpublished, hact.view_eq,
        hrest]
    | false => exact ih (h.act_other a ha)

end Divides

def Walk.start (config : ServerConfig) (hooked : Bool) : Walk :=
  { server := { Server.ofConfig config with hooked } }

theorem divides_start (name : String) (config : ServerConfig) (hooked : Bool) :
    Divides name (.start config hooked) (.start config hooked) :=
  have hfiled := filed_ofConfig config hooked
  ⟨hfiled, hfiled, rfl, rfl, rfl, rfl, rfl, rfl, rfl, nofun⟩

/-- Whatever a server is asked for, leaving out what is addressed to other names changes nothing
that there is to see for one name, neither of what is left nor in the end. -/
theorem isolation (config : ServerConfig) (hooked : Bool) (name : String) (acts : List Act) :
    observed name (.start config hooked) (restrict name (.start config hooked) acts) =
        observed name (.start config hooked) acts ∧
      ((Walk.start config hooked).run
          (restrict name (.start config hooked) acts)).server.view name =
        ((Walk.start config hooked).run acts).server.view name := by
  obtain ⟨hobserved, hrun⟩ := (divides_start name config hooked).observed_restrict acts
  exact ⟨hobserved, hrun.view_eq⟩

/-- Connection 1 of the server is connection 0 of the name `news`. -/
example :
    let start : Walk := .start { autoStream := true } true
    let acts : List Act := [.operation (.attach "other" []), .operation (.attach "news" []),
      .operation (.publish "other" { data := [97] }), .operation (.publish "news" { data := [98] }),
      .operation (.poll 0), .operation (.poll 1)]
    let kept : List Act := [.operation (.attach "news" []),
      .operation (.publish "news" { data := [98] }), .operation (.poll 0)]
    restrict "news" start acts = kept ∧
      observed "news" start acts = observed "news" start kept := by
  decide +kernel

end EventBroker.Server
