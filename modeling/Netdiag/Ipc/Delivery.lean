import Netdiag.Ipc.Demux
import Netdiag.Ipc.Link
import Netdiag.Ipc.Terminator
import Netdiag.Ipc.Unary

namespace Netdiag.Ipc

/-!
# IPC — from the daemon's queue to the caller

What a caller of `DaemonClient` is handed, against what its session of the daemon queued: both ends,
the socket between them, and any number of other connections.

* `Session.Solicited` — before a frame with id `i` is read, nothing of the session is about `i`.
* `Session.step_outflow` — a step adds to the outbound queue and to what is pending alike.
* `Link.Carries` — what has arrived is what the writer took, and every frame of a call that was
  read was looked up after the call was registered.
* `replies_are_the_daemons` — so a call is handed the beginning of what was queued for it.
-/

namespace Session

variable {conn : Nat} {d d' : Daemon} {s s' s₁ : Session} {a : Action} {i : Nat}

/-! ### Nothing unsolicited -/

/-- Nothing of the session is about id `i`. -/
structure Untouched (i : Nat) (s : Session) : Prop where
  outbox : s.outbox i = []
  tasks : ∀ (t : Nat) task, s.tasks[t]? = some task → task.id ≠ i
  unaries : ∀ u ∈ s.unaries, u.id ≠ i
  calling : s.calling ≠ some i

/-- Nothing is queued for an id that was never asked for. -/
theorem Untouched.not_queued (h : Untouched i s) : ∀ f ∈ s.queued, f.id ≠ i := by
  intro f hf own
  have queued : f.body ∈ bodies i s.queued := List.mem_filterMap.mpr ⟨f, hf, if_pos own⟩
  rw [(List.append_eq_nil_iff.mp h.outbox).1] at queued
  cases queued

/-- Until it reads a frame with id `i` the session has nothing to do with it. -/
structure Solicited (i : Nat) (s : Session) : Prop where
  filed : s.Filed
  untouched : s.asked i = false → Untouched i s

/-- A new session has not heard of the id. -/
theorem solicited_init (i : Nat) : Solicited i Session.init where
  filed := .init
  untouched _ :=
    { outbox := by simp [Session.init, outbox, queued, replies]
      tasks := by simp [Session.init]
      unaries := by simp [Session.init]
      calling := by simp [Session.init, calling] }

/-- A handle filed or about to be filed under `i` is that of a task with this id. -/
theorem Untouched.not_holds (h : Untouched i s) {t : Nat} : ¬ s.Holds t i := by
  rintro ⟨task, htask, hid, -⟩
  exact h.tasks t task htask hid

/-- A step sends nothing to an id that was not asked for, unless it stops a capture under that
    number. -/
theorem Solicited.step (h : Solicited i s) (hi : i ≠ 0) (he : Effect d s a s')
    (forced : a = .loop → s.forcing = some i → d.captures.lookup i = none) : Solicited i s' := by
  refine ⟨h.filed.step he.table, fun unasked => ?_⟩
  have before : s.asked i = false := by
    cases asked : s.asked i with
    | false => rfl
    | true =>
      rw [he.asked_mono asked] at unasked
      cases unasked
  have other : ∀ f ∈ a.frame, f.id ≠ i := by
    intro f hf hid
    cases a with
    | receive g =>
      cases hf
      rw [← hid, he.asked_receive] at unasked
      cases unasked
    | _ => cases hf
  -- As the id was not asked for before, no task, entry or frame is its own.
  have quiet := h.untouched before
  refine ⟨?_, ?_, ?_, ?_⟩
  · have nothing : bodies i s.queued = [] ∧ bodies i s.replies = [] :=
      List.append_eq_nil_iff.mp quiet.outbox
    cases he.call i with
    | silent hall hdue =>
      rw [quiet.outbox] at hall
      exact List.sublist_nil.mp hall
    | item t task b r input htask hid => exact absurd hid (quiet.tasks t task htask)
    | check t task f act htask hid => exact absurd hid (quiet.tasks t task htask)
    | ended t task o input htask hid => exact absurd hid (quiet.tasks t task htask)
    | unary u call error r hcall hid => exact absurd hid (quiet.unaries call hcall)
    | rejected f r hid => exact absurd hid (other f rfl)
    | replied rs hr hwhy =>
      rcases hwhy with zero | calling
      · exact absurd zero hi
      · exact absurd calling quiet.calling
    | released t o own hreleasing hhit => exact absurd (h.filed.entry i t hhit) quiet.not_holds
    | refused t e hloop =>
      have spawning : s.spawning = some (i, t) := by rw [Session.spawning, hloop]
      exact absurd (h.filed.fresh i t spawning).1 quiet.not_holds
    | forced rs hforcing hhit => exact absurd (forced rfl hforcing) hhit
  · intro t task' htask hid
    rcases he.origin t task' htask with ⟨task, hold, later⟩ | ⟨-, f, call, rfl, rfl⟩
    · exact quiet.tasks t task hold (later.id_eq ▸ hid)
    · exact other f rfl hid
  · intro u hu hid
    rcases he.unaries hu with old | ⟨f, hf, hfid, -⟩
    · exact quiet.unaries u old hid
    · exact other f hf (hfid.trans hid)
  · intro calling
    rcases he.calling calling with old | ⟨f, hf, hfid, -⟩
    · exact quiet.calling old
    · exact other f hf hfid

/-! ### The outbound queue -/

/-- The frames the writer has taken. -/
def taken (s : Session) : List ServerFrame := s.queued.take (s.queued.length - s.pending)

/-- What a step does to the queue, unless it is the writer's: frames are added to it, and are
    pending. -/
structure Outflow (s s' : Session) : Prop where
  more : ∃ new, s'.queued = s.queued ++ new ∧ s'.pending = s.pending + new.length

/-- A step that sends nothing. -/
theorem Outflow.of_eq (history : s'.history = s.history) (pending : s'.pending = s.pending) :
    Outflow s s' :=
  ⟨[], by rw [queued_of_history history, List.append_nil], pending⟩

/-- A frame that is sent is added to the queue, and pending. -/
theorem outflow_send {f : ServerFrame} (h : s.send f = some s') : Outflow s s' := by
  unfold send at h
  split at h
  · cases h
    exact .of_eq rfl rfl
  · split at h
    · cases h
      exact ⟨[f], queued_push s f, rfl⟩
    · cases h

/-- Aborting tasks does not touch the queue. -/
theorem abortEach_pending (handles : List Nat) (s : Session) :
    (s.abortEach handles).pending = s.pending := by
  induction handles generalizing s with
  | nil => rfl
  | cons t rest ih => exact ih (s.abort t)

/-- What a step of the loop sends is added to the queue, and pending. -/
theorem loopStep_outflow (h : s.loopStep d = some (d', s')) : Outflow s s' := by
  unfold loopStep at h
  split at h
  case h_4 =>
    obtain ⟨s₁, hs, he⟩ := Option.map_eq_some_iff.mp h
    cases he
    exact ⟨(outflow_send hs).more⟩
  case h_10 =>
    cases h
    exact .of_eq (abortEach_fields _ _).2.2.1 (abortEach_pending _ _)
  all_goals
    try split at h
    all_goals cases h
    all_goals exact .of_eq rfl rfl

/-- So is what a step of a task sends. -/
theorem runTask_outflow {t : Nat} {input : Input} (h : s.runTask conn d t input = some (d', s')) :
    Outflow s s' := by
  obtain ⟨task, -, -, hstep⟩ := runTask_cases h
  cases hstep with
  | moved | removed => exact .of_eq rfl rfl
  | sent b d₁ task' r s₁ hpc hbody hsend => exact ⟨(outflow_send hsend).more⟩
  | ended outcome s₁ hpc hsend => exact ⟨(outflow_send hsend).more⟩

/-- So is what a step of a forwarder sends. -/
theorem runForwarder_outflow {t : Nat} {act : ForwarderAct} (h : s.runForwarder t act = some s') :
    Outflow s s' := by
  unfold runForwarder at h
  split at h
  · cases h
  split at h
  · cases h
  simp only at h
  split at h
  · cases h
  split at h
  · split at h
    · cases h
      exact .of_eq rfl rfl
    · cases h
  · split at h
    · cases h
    split at h
    · obtain ⟨s₁, hs, rfl⟩ := Option.map_eq_some_iff.mp h
      exact ⟨(outflow_send hs).more⟩
    · cases h
      exact .of_eq rfl rfl
  · split at h
    · cases h
      exact .of_eq rfl rfl
    · cases h

/-- So is the answer of a unary call that returns. -/
theorem runUnary_outflow {u : Nat} {error : Option Error} (h : s.runUnary u error = some s') :
    Outflow s s' := by
  unfold runUnary at h
  split at h
  · cases h
  · obtain ⟨s₁, hs, rfl⟩ := Option.map_eq_some_iff.mp h
    exact ⟨(outflow_send hs).more⟩

/-- A received frame is noted, and nothing is sent for it yet. -/
theorem receive_history (f : ClientFrame) :
    (s.receive f).history = .received f :: s.history ∧ (s.receive f).pending = s.pending := by
  unfold receive
  cases f.body with
  | none => exact ⟨rfl, rfl⟩
  | some body =>
    by_cases zero : f.id = 0
    · simp [zero, answer]
    · cases body <;> cases s.greeted <;>
        simp [zero, answer, dispatch, spawnUnary, spawnStream]

/-- Whatever is queued in a step is pending after it. -/
theorem step_outflow (h : step conn d s a = some (d', s')) (take : a ≠ .writerTake) :
    Outflow s s' := by
  cases a with
  -- A frame that comes in is noted, and adds nothing to the queue.
  | receive f =>
    simp only [step] at h
    split at h <;> cases h
    refine ⟨[], ?_, (receive_history f).2⟩
    rw [List.append_nil, ← queued_received s f]
    exact queued_of_history (receive_history f).1
  | malformed detail =>
    simp only [step] at h
    split at h <;> cases h
    exact .of_eq rfl rfl
  | disconnect =>
    simp only [step] at h
    split at h <;> cases h
    exact .of_eq rfl rfl
  | loop => exact loopStep_outflow h
  | poll t | yield t =>
    simp only [step] at h
    split at h
    · split at h <;> cases h
      exact .of_eq rfl rfl
    · cases h
  | task t input => exact runTask_outflow h
  | forwarder t act =>
    obtain ⟨s₁, hs, he⟩ := Option.map_eq_some_iff.mp h
    cases he
    exact runForwarder_outflow hs
  | unary u error =>
    obtain ⟨s₁, hs, he⟩ := Option.map_eq_some_iff.mp h
    cases he
    exact runUnary_outflow hs
  | writerTake => exact absurd rfl take
  | writerClose =>
    cases h
    exact .of_eq rfl rfl

/-- Sending a frame does not change what was asked for. -/
theorem Sent.asked_eq {f : ServerFrame} (h : Sent s f s₁) (i : Nat) : s₁.asked i = s.asked i := by
  unfold asked
  rcases h.history_eq with same | more
  · rw [same]
  · rw [more, List.any_cons, Bool.false_or]

/-- What was asked for after a frame was asked for before it, or by it. -/
theorem asked_received (f : ClientFrame) (asked : s'.asked i = true)
    (history : s'.history = .received f :: s.history) : s.asked i = true ∨ f.id = i := by
  unfold Session.asked at asked ⊢
  rw [history, List.any_cons, Bool.or_eq_true, beq_iff_eq] at asked
  exact asked.symm

/-- Only a frame that is read makes an id one that was asked for. -/
theorem Effect.asked_of (h : Effect d s a s') (asked : s'.asked i = true) :
    s.asked i = true ∨ ∃ f, a = .receive f ∧ f.id = i := by
  cases h
  case answered f r greeted handled hloop hkind hstream =>
    exact (asked_received f asked rfl).imp_right fun hid => ⟨f, rfl, hid⟩
  case called f handled unaries loop hloop hstream hunaries hnext =>
    exact (asked_received f asked rfl).imp_right fun hid => ⟨f, rfl, hid⟩
  case spawned f call handled hloop hbody =>
    exact (asked_received f asked rfl).imp_right fun hid => ⟨f, rfl, hid⟩
  case flushed hsent => exact .inl ((hsent.asked_eq i).symm.trans asked)
  case bodySent hsent => exact .inl ((hsent.asked_eq i).symm.trans asked)
  case ended hsent => exact .inl ((hsent.asked_eq i).symm.trans asked)
  case forwarderSent hsent => exact .inl ((hsent.asked_eq i).symm.trans asked)
  case unaryReplied hsent => exact .inl ((hsent.asked_eq i).symm.trans asked)
  case inserted =>
    unfold Session.asked at asked
    rw [(abortEach_fields _ _).2.2.1] at asked
    exact .inl asked
  case tornDown =>
    unfold Session.asked at asked
    rw [(abortEach_fields _ _).2.2.1] at asked
    exact .inl asked
  all_goals exact .inl asked

/-- Only the writer takes frames, and only frames that are there. -/
theorem taken_step (h : step conn d s a = some (d', s')) (take : a ≠ .writerTake)
    (le : s.pending ≤ s.queued.length) :
    s'.taken = s.taken ∧ s'.pending ≤ s'.queued.length := by
  obtain ⟨new, queued, pending⟩ := (step_outflow h take).more
  have same : s'.queued.length - s'.pending = s.queued.length - s.pending := by
    rw [queued, pending, List.length_append]
    omega
  refine ⟨?_, ?_⟩
  · rw [taken, same, queued, List.take_append_of_le_length (Nat.sub_le _ _)]
    rfl
  · rw [queued, pending, List.length_append]
    omega

/-- The writer takes the next frame. -/
theorem taken_writerTake {f : ServerFrame} (h : step conn d s .writerTake = some (d', s'))
    (next : s.untaken = some f) (le : s.pending ≤ s.queued.length) :
    s'.taken = s.taken ++ [f] ∧ s'.pending ≤ s'.queued.length := by
  have at_ : s.queued[s.queued.length - s.pending]? = some f := next
  obtain ⟨lt, eq⟩ := List.getElem?_eq_some_iff.mp at_
  simp only [step] at h
  split at h
  · rename_i positive
    cases h
    have next : s.queued.length - (s.pending - 1) = s.queued.length - s.pending + 1 := by omega
    refine ⟨?_, ?_⟩
    · show s.queued.take (s.queued.length - (s.pending - 1)) = _
      rw [next, List.take_add_one, at_]
      rfl
    · show s.pending - 1 ≤ s.queued.length
      omega
  · cases h

end Session

/-! ### Both ends -/

namespace Link

open DaemonClient (Log)

/-- What the onlooker of call `n` notes of a step. -/
def note (n : Nat) (l : Link) (log : Log) : Action → Log
  | .client a => log.note n l.client a
  | .daemon _ _ => log

/-- A step of the link under the eyes of the onlooker of call `n`. -/
def observe (n : Nat) (p : Link × Log) (a : Action) : Option (Link × Log) :=
  (p.1.step a).map (fun l => (l, p.1.note n p.2 a))

/-- The client's ids do not wrap around, and no `StopCapture` on the connection hits a capture of
    the daemon whose number is the id of the call. -/
def Spares (n : Nat) (p : Link × Log) : Action → Prop
  | .daemon conn a => conn = 0 → a = .loop → p.1.session.forcing = some (n + 1) →
      p.1.server.shared.captures.lookup (n + 1) = none
  | .client a => p.1.client.CountsOn a

/-- The frames of call `n`. -/
def ofCall (n : Nat) (frames : List ServerFrame) : List ServerFrame :=
  frames.filter (fun f => f.id == n + 1)

/-- The frame `read_loop` is looking up. -/
def beingLooked (c : DaemonClient) : List ServerFrame :=
  match c.reader with
  | .looking f => [f]
  | _ => []

/-- What holds across the socket. -/
structure Carries (n : Nat) (l : Link) (log : Log) : Prop where
  observed : DaemonClient.Observed n l.client log
  numbered : l.client.Numbered
  session : l.session.Solicited (n + 1)
  pending : l.session.pending ≤ l.session.queued.length
  arrived : l.client.seen ++ l.client.inbox = l.session.taken
  /-- Whoever is asked about was registered. -/
  wire : ∀ f ∈ l.wire, f.id = n + 1 → log.registered = true
  asked : l.session.asked (n + 1) = true → log.registered = true
  looked : ofCall n (log.looked ++ beingLooked l.client) = ofCall n l.client.seen

variable {l l' : Link} {n : Nat} {log : Log}

/-- What a step of the client's session does to the rest of the link. -/
theorem daemon_inv {a : Session.Action} (h : l.step (.daemon 0 a) = some l') :
    Session.step 0 l.server.shared l.session a = some (l'.server.shared, l'.session) ∧
    ((∃ f, a = .receive f ∧ l.wire = f :: l'.wire ∧ l'.client = l.client) ∨
     (a = .writerTake ∧ l'.wire = l.wire ∧ ∃ f, l.session.untaken = some f ∧
        l'.client = { l.client with inbox := l.client.inbox ++ [f] }) ∨
     ((∀ f, a ≠ .receive f) ∧ a ≠ .writerTake ∧ l'.wire = l.wire ∧ l'.client = l.client)) := by
  obtain ⟨server, hserver, h⟩ := Option.bind_eq_some_iff.mp h
  have moved := (Runs.World.move_eq_some hserver).1
  -- The session reads from the wire, writes to the client, or works by itself.
  rw [if_pos rfl] at h
  split at h
  · rename_i f
    split at h
    · rename_i g rest hwire
      split at h
      · rename_i same
        subst same
        cases h
        exact ⟨moved, .inl ⟨g, rfl, hwire, rfl⟩⟩
      · cases h
    · cases h
  · obtain ⟨f, next, rfl⟩ := Option.map_eq_some_iff.mp h
    exact ⟨moved, .inr (.inl ⟨rfl, rfl, f, next, rfl⟩)⟩
  · rename_i receive take
    cases h
    exact ⟨moved, .inr (.inr ⟨fun f hf => receive f hf, fun ht => take ht, rfl, rfl⟩)⟩

/-- A step of the client is one of the linked pair, with what it writes put on the wire. -/
theorem client_inv {a : DaemonClient.Action} (h : l.step (.client a) = some l') :
    (∀ f, a ≠ .arrive f) ∧ l.client.step a = some l'.client ∧ l'.session = l.session ∧
      l'.wire = l.wire ++ (l.client.written a).toList := by
  have h : l.clientStep a = some l' := h
  unfold clientStep at h
  split at h
  · cases h
  · rename_i arrive
    obtain ⟨c, hc, rfl⟩ := Option.map_eq_some_iff.mp h
    exact ⟨fun f hf => arrive f hf, hc, rfl, rfl⟩

/-- What other connections do leaves this link alone. -/
theorem elsewhere_inv {conn : Nat} {a : Session.Action} (ne : conn ≠ 0)
    (h : l.step (.daemon conn a) = some l') :
    l'.session = l.session ∧ l'.client = l.client ∧ l'.wire = l.wire := by
  obtain ⟨server, hserver, h⟩ := Option.bind_eq_some_iff.mp h
  have rest := (Runs.World.move_eq_some hserver).2
  rw [if_neg ne] at h
  cases h
  exact ⟨rest 0 (Ne.symm ne), rfl, rfl⟩

/-! ### The onlooker -/

/-- A call that was registered stays noted as such. -/
theorem registered_note (c : DaemonClient) (a : DaemonClient.Action) (h : log.registered = true) :
    (log.note n c a).registered = true := by
  unfold Log.note
  split
  · split
    · rfl
    · exact h
  · split
    · rw [if_pos h]
      exact h
    · exact h
  · split
    · exact h
    · exact h
  · exact h

/-- Only a lookup adds to the frames that were looked up. -/
theorem looked_note (c : DaemonClient) {a : DaemonClient.Action} (look : a ≠ .look) :
    (log.note n c a).looked = log.looked := by
  unfold Log.note
  split
  · split <;> rfl
  · exact absurd rfl look
  · split <;> rfl
  · rfl

/-- The frames of a call, in two parts. -/
theorem ofCall_append (n : Nat) (xs ys : List ServerFrame) :
    ofCall n (xs ++ ys) = ofCall n xs ++ ofCall n ys := List.filter_append xs ys

/-- Outside a lookup no frame is being looked up. -/
theorem beingLooked_eq_nil {c : DaemonClient} (other : ∀ f, c.reader ≠ .looking f) :
    beingLooked c = [] := by
  unfold beingLooked
  split
  · rename_i f looking
    exact absurd looking (other f)
  · rfl

/-- The frame the reader holds is being looked up. -/
theorem beingLooked_eq {c : DaemonClient} {f : ServerFrame} (looking : c.reader = .looking f) :
    beingLooked c = [f] := by
  unfold beingLooked
  rw [looking]

/-- The onlooker notes a lookup once the call is registered, and before that none is for it. -/
theorem looked_look {c : DaemonClient} {f : ServerFrame} (looking : c.reader = .looking f)
    (h : ofCall n (log.looked ++ beingLooked c) = ofCall n c.seen)
    (unnoticed : log.registered = false → ofCall n c.seen = []) :
    ofCall n (log.note n c .look).looked = ofCall n c.seen := by
  rw [beingLooked_eq looking] at h
  rw [DaemonClient.Log.note_look looking]
  cases registered : log.registered with
  | true =>
    rw [if_pos rfl]
    exact h
  | false =>
    have none := unnoticed registered
    rw [if_neg (by decide)]
    rw [none, ofCall_append] at h
    rw [none, (List.append_eq_nil_iff.mp h).1]

/-- The onlooker keeps up with what is read for the call. -/
theorem looked_step {c c' : DaemonClient} {a : DaemonClient.Action}
    (he : DaemonClient.Effect c a c') (ha : ∀ f, a ≠ .arrive f)
    (h : ofCall n (log.looked ++ beingLooked c) = ofCall n c.seen)
    (unnoticed : log.registered = false → ofCall n c.seen = []) :
    ofCall n ((log.note n c a).looked ++ beingLooked c') = ofCall n c'.seen := by
  by_cases look : a = .look
  · subst look
    cases he with
    | unknown f hreader hmiss =>
      rw [beingLooked_eq_nil (by simp), List.append_nil]
      exact looked_look hreader h unnoticed
    | found f i hreader hhit =>
      rw [beingLooked_eq_nil (by simp), List.append_nil]
      exact looked_look hreader h unnoticed
  · rw [looked_note c look]
    cases he with
    | called | inserted | moved | removed => exact h
    | arrived f => exact absurd rfl (ha f)
    | read f rest hreader hinbox =>
      have idle : beingLooked c = [] := beingLooked_eq_nil (by simp [hreader])
      rw [idle, List.append_nil] at h
      rw [beingLooked_eq rfl, ofCall_append, h, ← ofCall_append]
    | ended hreader | cleared hreader =>
      have idle : beingLooked c = [] := beingLooked_eq_nil (by simp [hreader])
      rw [beingLooked_eq_nil (by simp), ← idle]
      exact h
    | unknown | found => exact absurd rfl look
    | lost f i call hreader hcall hgone =>
      have idle : beingLooked c = [] := beingLooked_eq_nil (by simp [hreader])
      rw [beingLooked_eq_nil (by simp), ← idle]
      exact h
    | delivered f i call hreader hcall hgone hroom =>
      have idle : beingLooked c = [] := beingLooked_eq_nil (by simp [hreader])
      rw [beingLooked_eq_nil (by simp [DaemonClient.setCall]), ← idle]
      exact h

/-- What the client has read and not read stays, unless a frame arrives. -/
theorem seen_inbox {c c' : DaemonClient} {a : DaemonClient.Action}
    (he : DaemonClient.Effect c a c') (ha : ∀ f, a ≠ .arrive f) :
    c'.seen ++ c'.inbox = c.seen ++ c.inbox := by
  cases he with
  | arrived f => exact absurd rfl (ha f)
  | read f rest hreader hinbox =>
    rw [hinbox]
    exact List.append_assoc _ _ _
  | called | inserted | moved | removed | ended => rfl
  | unknown | found | lost | delivered | cleared => rfl

/-! ### Whole runs -/

/-- A fresh link carries nothing. -/
theorem carries_init (n : Nat) : Carries n init .new where
  observed := .refl _
  numbered := DaemonClient.numbered_init
  session := Session.solicited_init (n + 1)
  pending := Nat.le_refl 0
  arrived := rfl
  wire f hf := absurd hf List.not_mem_nil
  asked h := by cases h
  looked := rfl

/-- What was read is a beginning of what was queued. -/
theorem Carries.seen_queued (h : Carries n l log) : l.client.seen <+: l.session.queued := by
  have seen : l.client.seen <+: l.session.taken := by
    rw [← h.arrived]
    exact List.prefix_append _ _
  exact seen.trans (List.take_prefix _ _)

/-- Before the call is registered nothing has been read for it. -/
theorem Carries.unnoticed (h : Carries n l log) (unregistered : log.registered = false) :
    ofCall n l.client.seen = [] := by
  have unasked : l.session.asked (n + 1) = false := by
    cases asked : l.session.asked (n + 1) with
    | false => rfl
    | true =>
      rw [h.asked asked] at unregistered
      cases unregistered
  rw [ofCall, List.filter_eq_nil_iff]
  intro f hf own
  exact (h.session.untouched unasked).not_queued f (h.seen_queued.subset hf) (beq_iff_eq.mp own)

/-- The client moves. -/
theorem Carries.client (h : Carries n l log) {a : DaemonClient.Action}
    (counts : l.client.CountsOn a) (moved : l.step (.client a) = some l') :
    Carries n l' (log.note n l.client a) := by
  obtain ⟨ha, hc, session, wire⟩ := client_inv moved
  have he := DaemonClient.step_effect hc
  refine ⟨?_, he.numbered counts h.numbered, ?_, ?_, ?_, ?_, ?_, ?_⟩
  · refine .tail a h.observed trivial ?_
    show (l.client.step a).map _ = _
    rw [hc]
    rfl
  · rw [session]
    exact h.session
  · rw [session]
    exact h.pending
  · rw [session, seen_inbox he ha]
    exact h.arrived
  · intro f hf own
    rw [wire] at hf
    rcases List.mem_append.mp hf with old | new
    · exact registered_note _ a (h.wire f old own)
    · -- a request is written by a call that is past its registration
      apply registered_note
      rw [Option.mem_toList] at new
      unfold DaemonClient.written at new
      split at new
      · rename_i i
        obtain ⟨call, hcall, rfl⟩ := Option.map_eq_some_iff.mp new
        obtain rfl : i = n := by
          have id := h.numbered.ids i call hcall
          have own : call.id = n + 1 := own
          omega
        have sending : call.pc ≠ .inserting := by
          intro inserting
          simp [DaemonClient.step, hcall, ClientCall.step, inserting] at hc
        have divided := DaemonClient.divided_of_observed h.observed
        exact (divided.following.present call hcall).registered sending
      · cases new
  · rw [session]
    exact fun asked => registered_note _ a (h.asked asked)
  · exact looked_step he ha h.looked h.unnoticed

/-- The daemon moves, and the client hears nothing of it. -/
theorem Carries.unheard (h : Carries n l log) (client : l'.client = l.client)
    (wire : l'.wire ⊆ l.wire) (session : l'.session.Solicited (n + 1))
    (asked : l'.session.asked (n + 1) = true → log.registered = true)
    (flow : l'.session.taken = l.session.taken ∧ l'.session.pending ≤ l'.session.queued.length) :
    Carries n l' log where
  observed := by
    rw [client]
    exact h.observed
  numbered := by
    rw [client]
    exact h.numbered
  session := session
  pending := flow.2
  arrived := by
    rw [client, flow.1]
    exact h.arrived
  wire f hf := h.wire f (wire hf)
  asked := asked
  looked := by
    rw [client]
    exact h.looked

/-- The daemon moves. -/
theorem Carries.daemon (h : Carries n l log) {conn : Nat} {a : Session.Action}
    (spares : Spares n (l, log) (.daemon conn a)) (moved : l.step (.daemon conn a) = some l') :
    Carries n l' log := by
  -- Only the connection of this link matters.
  by_cases own : conn = 0
  · subst own
    obtain ⟨stepped, rest⟩ := daemon_inv moved
    have he := Session.step_effect stepped
    have session : l'.session.Solicited (n + 1) :=
      h.session.step (Nat.succ_ne_zero n) he (fun ha hf => spares rfl ha hf)
    -- A frame comes in, one goes out, or neither.
    rcases rest with ⟨f, rfl, wire, client⟩ | ⟨rfl, wire, f, next, client⟩ |
      ⟨read, take, wire, client⟩
    · refine h.unheard client ?_ session ?_ (Session.taken_step stepped (by simp) h.pending)
      · rw [wire]
        exact List.subset_cons_self f l'.wire
      · intro asked
        rcases he.asked_of asked with old | ⟨g, same, hid⟩
        · exact h.asked old
        · cases same
          exact h.wire f (by rw [wire]; exact List.mem_cons_self) hid
    · obtain ⟨taken, pending⟩ := Session.taken_writerTake stepped next h.pending
      refine ⟨?_, ?_, session, pending, ?_, ?_, ?_, ?_⟩
      · refine .tail (.arrive f) h.observed trivial ?_
        rw [client]
        rfl
      · rw [client]
        exact (DaemonClient.Effect.arrived f).numbered trivial h.numbered
      · rw [client, taken, ← h.arrived, List.append_assoc]
      · rw [wire]
        exact h.wire
      · intro asked
        rcases he.asked_of asked with old | ⟨g, same, -⟩
        · exact h.asked old
        · cases same
      · rw [client]
        exact h.looked
    · refine h.unheard client ?_ session ?_ (Session.taken_step stepped take h.pending)
      · rw [wire]
        exact List.Subset.refl _
      · intro asked
        rcases he.asked_of asked with old | ⟨g, same, -⟩
        · exact h.asked old
        · exact absurd same (read g)
  · obtain ⟨session, client, wire⟩ := elsewhere_inv own moved
    refine h.unheard client ?_ ?_ ?_ ?_
    · rw [wire]
      exact List.Subset.refl _
    · rw [session]
      exact h.session
    · rw [session]
      exact h.asked
    · rw [session]
      exact ⟨rfl, h.pending⟩

/-- A run of the link, with what the onlooker of call `n` noted. -/
abbrev Watched (n : Nat) (l : Link) (log : Log) : Prop :=
  Runs.Steps (observe n) (Spares n) (init, Log.new) (l, log)

/-- What holds across the socket holds in every run. -/
theorem carries_of_run (run : Watched n l log) : Carries n l log := by
  let Inv : Link × Log → Prop := fun p => Carries n p.1 p.2
  suffices inv : Inv (l, log) from inv
  refine run.invariant (carries_init n) ?_
  rintro ⟨l, log⟩ a ⟨l', log'⟩ h spares hs
  obtain ⟨l₁, moved, he⟩ := Option.map_eq_some_iff.mp hs
  cases he
  cases a with
  | client a => exact h.client spares moved
  | daemon conn a => exact h.daemon spares moved

/-- Whatever else the daemon and the client do: the reply queue of a call is given the beginning of
    what the session queued under its id, in order, nothing missing before it and nothing twice;
    what a stream hands to its caller is the beginning of that, and what `unary` returns its first
    frame; and the session queues nothing under the id before it reads the request. -/
theorem replies_are_the_daemons (run : Watched n l log) {call : ClientCall}
    (hcall : l.client.calls[n]? = some call) :
    call.got <+: l.session.queued.filter (fun f => f.id == call.id) ∧
      log.taken ++ call.out <+: l.session.queued.filter (fun f => f.id == call.id) ∧
      (∀ f, call.pc = .returned (.ok f) →
        (l.session.queued.filter (fun f => f.id == call.id)).head? = some f) ∧
      (l.session.asked call.id = false → ∀ f ∈ l.session.queued, f.id ≠ call.id) := by
  have h := carries_of_run run
  have divided := DaemonClient.divided_of_observed h.observed
  have id : call.id = n + 1 := h.numbered.ids n call hcall
  -- What the reader has looked at was written, and what was written was queued.
  have looked : ofCall n log.looked <+: ofCall n l.session.queued := by
    have seen : ofCall n l.client.seen <+: ofCall n l.session.queued := h.seen_queued.filter _
    rw [← h.looked, ofCall_append] at seen
    exact (List.prefix_append _ _).trans seen
  have got : call.got <+: ofCall n l.session.queued := by
    have matching := (divided.following.present call hcall).got
    rw [DaemonClient.Log.matching, id] at matching
    exact matching.trans looked
  rw [id]
  refine ⟨got, (divided.flow call hcall).begins.trans got, ?_, ?_⟩
  · intro f returned
    have first := (divided.flow call hcall).result f (.inr returned)
    obtain ⟨rest, eq⟩ := got
    rw [ofCall] at eq
    rw [← eq, List.head?_append, first]
    rfl
  · exact fun unasked => (h.session.untouched unasked).not_queued

instance (n : Nat) (p : Link × Log) (a : Action) : Decidable (Spares n p a) :=
  match a with
  | .daemon _ _ => inferInstanceAs (Decidable (_ → _ → _ → _))
  | .client a => inferInstanceAs (Decidable (p.1.client.CountsOn a))

/-- The watch of call 1 is polled, and an event is queued, read and handed on. -/
def twoEvents : List Action :=
  List.flatten [handshake, watches 1,
    [.daemon 0 (.poll 0), .daemon 0 (.task 0 .go), .daemon 0 (.task 0 (.event true))], hears 1,
    [.client (.task 1 .pass), .daemon 0 (.task 0 (.event true)), .client (.task 1 .take),
      .daemon 0 .writerTake]]

/-- Of the two events of a watch one was handed to the caller, and the other one is on its way. -/
theorem replies_are_the_daemons_twoEvents : ∃ l log call, Watched 1 l log ∧
    l.client.calls[1]? = some call ∧ log.taken ++ call.out = [⟨2, .event⟩] ∧
    log.taken ++ call.out <+: l.session.queued.filter (fun f => f.id == call.id) ∧
    l.session.queued = [⟨1, .hello⟩, ⟨2, .event⟩, ⟨2, .event⟩] := by
  have exec : ∃ p, Runs.Steps (observe 1) (Spares 1) (init, Log.new) p ∧
      ((p.1.client.calls[1]?).map (fun call => p.2.taken ++ call.out) = some [⟨2, .event⟩] ∧
        p.1.session.queued = [⟨1, .hello⟩, ⟨2, .event⟩, ⟨2, .event⟩]) :=
    Runs.Steps.exists_of_exec twoEvents _ (by decide +kernel)
  obtain ⟨⟨l, log⟩, run, taken, queued⟩ := exec
  obtain ⟨call, hcall, handed⟩ := Option.map_eq_some_iff.mp taken
  exact ⟨l, log, call, run, hcall, handed, (replies_are_the_daemons run hcall).2.1, queued⟩

end Link

end Netdiag.Ipc
