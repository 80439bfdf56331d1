import Netdiag.Ipc.Registered

namespace Netdiag.Ipc

/-!
# IPC — one call of a session

The steps of a session as a client sees them that follows a single call id `i`:

* `Effect.origin` — every stream task was there before the step, and has only come closer
  to its end (`Later`), or it is the one just spawned;
* `bodies i` — the frames of call `i` in a list of frames, in order;
* `CallMove i` / `Effect.call` — the frames a step can add for call `i`, and who adds them:
  the task, its forwarder, a detached unary call, or the read loop.
-/

/-- A frame that carries no streaming call asks for no stream. -/
theorem ClientFrame.isStream_eq_false {f : ClientFrame}
    (h : ∀ call, f.body ≠ some (.stream call)) : f.isStream = false := by
  unfold isStream
  split
  · rename_i call hb; exact absurd hb (h call)
  · rfl

/-- A frame that asks for a stream carries the call. -/
theorem ClientFrame.body_of_isStream {f : ClientFrame} (h : f.isStream = true) :
    ∃ call, f.body = some (.stream call) := by
  by_contra hno
  rw [isStream_eq_false (fun call hb => hno ⟨call, hb⟩)] at h
  cases h

/-! ### Tasks only come closer to their end -/

/-- What a step can do to a task, as far as the frames it may still queue go. -/
structure StreamTask.Later (t t' : StreamTask) : Prop where
  id_eq : t'.id = t.id
  mute : t.Mute → t'.Mute
  drained : t.Mute → t.Drained → t'.Drained
  joined : t.Joined → t'.Joined

namespace StreamTask

variable {t t' : StreamTask}

/-- A task that nothing happened to. -/
theorem Later.refl (t : StreamTask) : t.Later t :=
  ⟨rfl, fun h => h, fun _ h => h, fun h => h⟩

/-- Dropping a task closes its check channel and changes nothing for its forwarder. -/
theorem later_drop (t : StreamTask) : t.Later t.drop where
  id_eq := rfl
  mute := fun _ => .inr (.inl rfl)
  drained := by
    intro _ hd f hf
    obtain ⟨f', hf', rfl⟩ := Option.map_eq_some_iff.mp hf
    exact hd f' hf'
  joined := by
    intro hj
    rcases hj with h | h | h
    · exact .inl h
    · exact .inr (.inl h)
    · refine .inr (.inr fun f hf => ?_)
      obtain ⟨f', hf', rfl⟩ := Option.map_eq_some_iff.mp hf
      exact h f' hf'

/-- A task that is to be aborted. -/
theorem later_abort (t : StreamTask) : t.Later t.abort := by
  unfold abort
  split
  · refine ⟨rfl, fun h => ?_, fun _ h => h, fun h => h⟩
    rcases h with h | h | h | h
    · exact .inl h
    · exact .inr (.inl h)
    · exact .inr (.inr (.inl ⟨h.1, rfl⟩))
    · exact .inr (.inr (.inr h))
  · exact .refl t

/-- A task whose turn it is. -/
theorem later_poll (h : t.status = .idle) : t.Later t.poll := by
  unfold poll
  split
  · exact later_drop t
  · rename_i hna
    refine ⟨rfl, fun hm => ?_, fun _ hd => hd, fun hj => hj⟩
    rcases hm with hm | hm | hm | hm
    · rw [h] at hm; cases hm
    · rw [h] at hm; cases hm
    -- a parked task is mute only by its abort, and then it would have been dropped
    · exact absurd hm.2 hna
    · exact .inr (.inr (.inr hm))

/-- A task that waits again. -/
theorem later_yield (h : t.status = .polling) : t.Later t.yield := by
  unfold yield
  split
  · exact later_drop t
  · refine ⟨rfl, fun hm => ?_, fun _ hd => hd, fun hj => hj⟩
    rcases hm with hm | hm | hm | hm
    · rw [h] at hm; cases hm
    · rw [h] at hm; cases hm
    · rw [h] at hm; cases hm.1
    · exact .inr (.inr (.inr hm))

/-- Queueing the `StreamEnd`; by then the forwarder has long been joined. -/
theorem later_ended {o : StreamOutcome} (hpc : t.pc = .ending o) :
    t.Later { t with pc := .removing } where
  id_eq := rfl
  mute := fun _ => .inr (.inr (.inr rfl))
  drained := fun _ hd => hd
  joined := by
    intro hj
    -- `end_stream` is called after the body has returned
    rcases hj with hj | hj | hj
    · rw [hpc] at hj; cases hj
    · rw [hpc] at hj; cases hj
    · exact .inr (.inr hj)

/-- A task that is over. -/
theorem later_finished (t : StreamTask) : t.Later { t with status := .finished } :=
  ⟨rfl, fun _ => .inl rfl, fun _ hd => hd, fun hj => hj⟩

/-- A forwarder that is still running moves, and stays quiet if it was. -/
theorem later_forwarder {f f' : Forwarder} (hf : t.forwarder = some f)
    (hfinished : f.finished = false) (hquiet : f.Quiet → f'.Quiet) :
    t.Later { t with forwarder := some f' } where
  id_eq := rfl
  mute := fun hm => hm
  drained := by
    intro _ hd g hg
    cases hg
    exact hquiet (hd f hf)
  joined := by
    intro hj
    rcases hj with hj | hj | hj
    · exact .inl hj
    · exact .inr (.inl hj)
    · exact absurd (hj f hf) (by simp [hfinished])

/-- A task that is being polled short of its `registry.remove` is not mute. -/
theorem not_mute_of_polling (h : t.status = .polling) (hpc : t.pc ≠ .removing) : ¬ t.Mute := by
  rintro (hm | hm | hm | hm)
  · rw [h] at hm; cases hm
  · rw [h] at hm; cases hm
  · rw [h] at hm; cases hm.1
  · exact hpc hm

/-- A task that is parked short of its `registry.remove` and not aborted is not mute. -/
theorem not_mute_of_parked (h : t.Parked) (ha : t.abortRequested = false) : ¬ t.Mute := by
  rintro (hm | hm | hm | hm)
  · rw [h.1] at hm; cases hm
  · rw [h.1] at hm; cases hm
  · rw [ha] at hm; cases hm.2
  · exact h.2 hm

/-- Aborting a parked task silences it. -/
theorem mute_abort_of_parked (h : t.Parked) : t.abort.Mute := by
  have hlive : t.Live := .inl h.1
  unfold abort
  rw [if_pos hlive]
  exact .inr (.inr (.inl ⟨h.1, rfl⟩))

/-- An abort empties no channel. -/
theorem drained_abort : t.abort.Drained ↔ t.Drained := by
  unfold abort
  split <;> rfl

end StreamTask

/-- A step of the body is a step of the task. -/
theorem BodyMove.later {t t' : StreamTask} {b : Body} {reply : Option Reply}
    (h : BodyMove t t' reply) (hstatus : t.status = .polling) (hpc : t.pc = .body b) :
    t.Later t' := by
  have hloud : ¬ t.Mute := StreamTask.not_mute_of_polling hstatus (by simp [hpc])
  exact ⟨h.id_eq, fun hm => absurd hm hloud, fun hm => absurd hm hloud, h.joined⟩

namespace Session

variable {d : Daemon} {s s' : Session} {a : Action}

/-- Where a task comes from: it was there before, or was spawned by this step. -/
def Origin (s : Session) (a : Action) (t : Nat) (task' : StreamTask) : Prop :=
  (∃ task, s.tasks[t]? = some task ∧ task.Later task') ∨
    (t = s.tasks.length ∧ ∃ f call, a = .receive f ∧ task' = .spawned f.id call)

/-- A task that was there before. -/
theorem Origin.of_eq {t : Nat} {task : StreamTask} (h : s.tasks[t]? = some task) :
    Origin s a t task :=
  .inl ⟨task, h, .refl task⟩

/-- Where one task is replaced, each was there before. -/
theorem Origin.of_set {t u : Nat} {task task' x : StreamTask} (htask : s.tasks[t]? = some task)
    (hlater : task.Later task') (hx : (s.tasks.set t task')[u]? = some x) :
    Origin s a u x := by
  rcases Runs.set_cases htask hx with ⟨rfl, rfl⟩ | ⟨-, hx⟩
  · exact .inl ⟨task, htask, hlater⟩
  · exact .of_eq hx

/-- Where some tasks are aborted, each was there before. -/
theorem Origin.of_abortEach (handles : List Nat) {u : Nat} {x : StreamTask}
    (hx : (s.abortEach handles).tasks[u]? = some x) : Origin s a u x := by
  rw [tasks_abortEach] at hx
  split at hx
  · obtain ⟨task, htask, rfl⟩ := Option.map_eq_some_iff.mp hx
    exact .inl ⟨task, htask, StreamTask.later_abort task⟩
  · exact .of_eq hx

/-- **Origin of tasks.**  Every task of the next state comes from one of this state, or
    was just spawned. -/
theorem Effect.origin (h : Effect d s a s') (t : Nat) (task' : StreamTask)
    (ht : s'.tasks[t]? = some task') : Origin s a t task' := by
  cases h with
  | answered => exact .of_eq ht
  | called => exact .of_eq ht
  -- The one step that adds a task.
  | spawned f call handled hloop hbody =>
    have ht' : (s.tasks ++ [StreamTask.spawned f.id call])[t]? = some task' := ht
    rcases Runs.push_cases ht' with hold | ⟨hlen, hnew⟩
    · exact .of_eq hold
    · exact .inr ⟨hlen, f, call, rfl, hnew⟩
  | hangup => exact .of_eq ht
  | answeredAll => exact .of_eq ht
  | flushed f fs after s₁ hloop hsent => exact .of_eq (hsent.tasks_eq ▸ ht)
  | cancelled id target u hloop hhit => exact .of_abortEach [u] ht
  | cancelMissed => exact .of_eq ht
  -- Aborts mark tasks, and leave each where it was.
  | inserted id u registry previous hloop hinsert =>
    rw [tasks_abortEach] at ht
    exact .of_abortEach previous.toList (by rw [tasks_abortEach]; exact ht)
  | insertRefused => exact .of_eq ht
  | refused id u e hloop => exact .of_abortEach [u] ht
  | stopped id captureId u hloop hhit => exact .of_abortEach [u] ht
  | stopMissed => exact .of_eq ht
  | stoppedDaemon => exact .of_eq ht
  | stopFailed => exact .of_eq ht
  | tornDown hloop =>
    rw [tasks_abortEach] at ht
    exact .of_abortEach s.registry.handles (by rw [tasks_abortEach]; exact ht)
  -- A task or its forwarder does one step, and the others wait.
  | polled u task htask hstatus => exact .of_set htask (StreamTask.later_poll hstatus) ht
  | yielded u task htask hstatus => exact .of_set htask (StreamTask.later_yield hstatus) ht
  | bodyMoved u task x b input htask hstatus hpc hmove =>
    exact .of_set htask (hmove.later hstatus hpc) ht
  | bodySent u task x b r input s₁ htask hstatus hpc hmove hsent =>
    exact .of_set htask (hmove.later hstatus hpc) (hsent.tasks_setTask ▸ ht)
  | ended u task outcome input s₁ htask hstatus hpc hsent =>
    exact .of_set htask (StreamTask.later_ended hpc) (hsent.tasks_setTask ▸ ht)
  | removed u task input htask hstatus hpc =>
    exact .of_set htask (StreamTask.later_finished task) ht
  | forwarderMoved u task f f' act htask hf hfinished hquiet =>
    exact .of_set htask (StreamTask.later_forwarder hf hfinished hquiet) ht
  | forwarderSent u task f f' act s₁ htask hf hfinished hbusy hsent =>
    exact .of_set htask (StreamTask.later_forwarder hf hfinished fun hq => absurd hq hbusy)
      (hsent.tasks_setTask ▸ ht)
  | unaryReplied u call error r s₁ hcall hkind hsent => exact .of_eq (hsent.tasks_eq ▸ ht)
  | wrote => exact .of_eq ht

/-! ### The frames of a call -/

/-- What the frames of call `i` carry, in order. -/
def bodies (i : Nat) (frames : List ServerFrame) : List Reply :=
  frames.filterMap (fun f => if f.id = i then some f.body else none)

/-- No frames, no bodies. -/
@[simp] theorem bodies_nil (i : Nat) : bodies i [] = [] := rfl

/-- A frame adds its body if it is for this id. -/
@[simp] theorem bodies_cons (i : Nat) (f : ServerFrame) (fs : List ServerFrame) :
    bodies i (f :: fs) = if f.id = i then f.body :: bodies i fs else bodies i fs := by
  unfold bodies
  rw [List.filterMap_cons]
  split <;> split <;> simp_all

/-- The bodies of two batches of frames. -/
@[simp] theorem bodies_append (i : Nat) (fs gs : List ServerFrame) :
    bodies i (fs ++ gs) = bodies i fs ++ bodies i gs := by
  simp [bodies, List.filterMap_append]

/-- The frames of call `i` that are queued or about to be. -/
def outbox (s : Session) (i : Nat) : List Reply := bodies i s.queued ++ bodies i s.replies

/-- Has a frame with id `i` been read? -/
def asked (s : Session) (i : Nat) : Bool :=
  s.history.any (fun e => match e with | .received f => f.id == i | .queued _ => false)

/-- The frame the read loop reads in this step. -/
def Action.frame : Action → Option ClientFrame
  | .receive f => some f
  | _ => none

/-- The id of the `Cancel` or `StopCapture` the read loop is working on. -/
def calling (s : Session) : Option Nat :=
  match s.loop with
  | .cancelling id _ => some id
  | .stopping id _ => some id
  | .stoppingDaemon id _ => some id
  | _ => none

/-- The id a `Cancel` or `StopCapture` is about to take out of the registry. -/
def releasing (s : Session) : Option Nat :=
  match s.loop with
  | .cancelling _ target => some target
  | .stopping _ captureId => some captureId
  | _ => none

/-- The id a `StopCapture` is about to look up among the daemon's captures. -/
def forcing (s : Session) : Option Nat :=
  match s.loop with
  | .stoppingDaemon _ captureId => some captureId
  | _ => none

/-- What a step can do to the frames of call `i`. -/
inductive CallMove (i : Nat) (d : Daemon) (s : Session) : Action → Session → Prop
  /-- Nothing is added; a frame may be lost. -/
  | silent {a : Action} {s' : Session} (hall : (s'.outbox i).Sublist (s.outbox i))
      (hdue : (bodies i s'.replies).Sublist (bodies i s.replies)) : CallMove i d s a s'
  /-- The task of the call queues an item. -/
  | item {s' : Session} (t : Nat) (task : StreamTask) (b : Body) (r : Reply) (input : Input)
      (htask : s.tasks[t]? = some task) (hid : task.id = i) (hstatus : task.status = .polling)
      (hpc : task.pc = .body b) (hr : r.isTerminator = false)
      (hqueued : bodies i s'.queued = bodies i s.queued ++ [r])
      (hreplies : s'.replies = s.replies) : CallMove i d s (.task t input) s'
  /-- The forwarder of the call queues a check. -/
  | check {s' : Session} (t : Nat) (task : StreamTask) (f : Forwarder) (act : ForwarderAct)
      (htask : s.tasks[t]? = some task) (hid : task.id = i) (hf : task.forwarder = some f)
      (hbusy : ¬ f.Quiet)
      (hqueued : bodies i s'.queued = bodies i s.queued ++ [.diagnose .check])
      (hreplies : s'.replies = s.replies) : CallMove i d s (.forwarder t act) s'
  /-- The task of the call queues its `StreamEnd`. -/
  | ended {s' : Session} (t : Nat) (task : StreamTask) (o : StreamOutcome) (input : Input)
      (htask : s.tasks[t]? = some task) (hid : task.id = i) (hstatus : task.status = .polling)
      (hpc : task.pc = .ending o)
      (htasks : s'.tasks = s.tasks.set t { task with pc := .removing })
      (hqueued : bodies i s'.queued = bodies i s.queued ++ [.streamEnd o])
      (hreplies : s'.replies = s.replies) : CallMove i d s (.task t input) s'
  /-- The call was unary and is answered by its own task. -/
  | unary {s' : Session} (u : Nat) (call : UnaryTask) (error : Option Error) (r : Reply)
      (hcall : call ∈ s.unaries) (hid : call.id = i) (hr : r.isStreamEnd = false)
      (hqueued : bodies i s'.queued = bodies i s.queued ++ [r])
      (hreplies : s'.replies = s.replies) : CallMove i d s (.unary u error) s'
  /-- The call is answered as it is read. -/
  | rejected {s' : Session} (f : ClientFrame) (r : Reply) (hid : f.id = i)
      (hr : r.isStreamEnd = false)
      (hstream : ∀ call, f.body = some (.stream call) → r.isTerminator = true)
      (htasks : s'.tasks = s.tasks) (hbefore : bodies i s.replies = []) (hqueued : s'.queued = s.queued)
      (hreplies : bodies i s'.replies = [r]) : CallMove i d s (.receive f) s'
  /-- The read loop answers the call, which is no stream. -/
  | replied {a : Action} {s' : Session} (rs : List Reply)
      (hr : ∀ r ∈ rs, r.isStreamEnd = false) (hwhy : i = 0 ∨ s.calling = some i)
      (hbefore : bodies i s.replies = []) (hqueued : s'.queued = s.queued)
      (hreplies : bodies i s'.replies = rs) : CallMove i d s a s'
  /-- `Cancel` or `StopCapture` takes the handle of the call out of the registry. -/
  | released {s' : Session} (t : Nat) (o : StreamOutcome) (own : List Reply)
      (hreleasing : s.releasing = some i) (hhit : s.registry.lookup i = some t)
      (hr : ∀ r ∈ own, r.isStreamEnd = false) (hwhy : own = [] ∨ s.calling = some i)
      (htasks : s'.tasks = (s.abort t).tasks)
      (hbefore : bodies i s.replies = []) (hqueued : s'.queued = s.queued)
      (hreplies : bodies i s'.replies = .streamEnd o :: own) : CallMove i d s .loop s'
  /-- The call is refused at the stream limit. -/
  | refused {s' : Session} (t : Nat) (e : Error) (hloop : s.loop = .refused i t e)
      (htasks : s'.tasks = (s.abort t).tasks)
      (hbefore : bodies i s.replies = []) (hqueued : s'.queued = s.queued)
      (hreplies : bodies i s'.replies = [.error e]) : CallMove i d s .loop s'
  /-- `StopCapture` finds a capture of this number, on whatever connection. -/
  | forced {s' : Session} (rs : List Reply) (hforcing : s.forcing = some i)
      (hhit : d.captures.lookup i ≠ none)
      (hreplies : bodies i s'.replies = rs) : CallMove i d s .loop s'

variable {i : Nat}

/-- A step that adds nothing to the queue and leaves the loop with nothing to queue. -/
theorem CallMove.of_queued (hqueued : s'.queued = s.queued)
    (hreplies : bodies i s'.replies = []) : CallMove i d s a s' := by
  refine .silent ?_ ?_
  · unfold outbox
    rw [hqueued, hreplies, List.append_nil]
    exact List.sublist_append_left _ _
  · rw [hreplies]
    exact List.nil_sublist _

/-- A step that adds nothing to the queue and leaves the replies of the loop alone. -/
theorem CallMove.of_eq (hqueued : s'.queued = s.queued) (hloop : s'.loop = s.loop) :
    CallMove i d s a s' := by
  have hreplies : s'.replies = s.replies := by unfold replies; rw [hloop]
  refine .silent ?_ ?_
  · unfold outbox; rw [hqueued, hreplies]
  · rw [hreplies]

/-- A frame that is lost, or not one of call `i`. -/
theorem CallMove.of_sent {f : ServerFrame} {s₁ : Session} (hsent : Sent s f s₁)
    (hqueued : s'.queued = s₁.queued) (hloop : s'.loop = s.loop)
    (hnew : f.id = i → bodies i s'.queued = bodies i s.queued ++ [f.body] →
      s'.replies = s.replies → CallMove i d s a s') : CallMove i d s a s' := by
  have hreplies : s'.replies = s.replies := by unfold replies; rw [hloop]
  rcases hsent.queued_eq with he | he
  · exact .of_eq (hqueued.trans he) hloop
  · by_cases hid : f.id = i
    · refine hnew hid ?_ hreplies
      rw [hqueued, he]
      simp [hid]
    · refine .silent ?_ (by rw [hreplies])
      unfold outbox
      rw [hqueued, he, hreplies]
      simp [hid]

/-- The queue is what the history says was queued. -/
theorem queued_of_history (h : s'.history = s.history) : s'.queued = s.queued := by
  unfold queued
  rw [h]

/-- `Cancel` or `StopCapture` has a hit: its replies are a `StreamEnd` for the id it
    released and a reply of its own. -/
theorem CallMove.of_released {id target t : Nat} {o : StreamOutcome} {r : Reply}
    (hcalling : s.calling = some id) (hreleasing : s.releasing = some target)
    (hhit : s.registry.lookup target = some t) (hr : r.isStreamEnd = false)
    (htasks : s'.tasks = (s.abort t).tasks) (hnone : s.replies = [])
    (hqueued : s'.queued = s.queued)
    (hreplies : s'.replies = [⟨target, .streamEnd o⟩, ⟨id, r⟩]) :
    CallMove i d s .loop s' := by
  have hbefore : bodies i s.replies = [] := by rw [hnone]; rfl
  -- both frames may be of this call (a `Cancel` that targets its own id), or one, or none
  by_cases htarget : target = i
  · subst htarget
    by_cases hid : id = target
    · refine .released t o [r] hreleasing hhit (by simpa using hr) (.inr (hid ▸ hcalling))
        htasks hbefore hqueued ?_
      rw [hreplies]
      simp [hid]
    · refine .released t o [] hreleasing hhit (by simp) (.inl rfl) htasks hbefore hqueued ?_
      rw [hreplies]
      simp [hid]
  · by_cases hid : id = i
    · refine .replied [r] (by simpa using hr) (.inr (hid ▸ hcalling)) hbefore hqueued ?_
      rw [hreplies]
      simp [htarget, hid]
    · refine .of_queued hqueued ?_
      rw [hreplies]
      simp [htarget, hid]

/-- `Cancel` or `StopCapture` answers no more than its own reply. -/
theorem CallMove.of_missed {id : Nat} {r : Reply} (hcalling : s.calling = some id)
    (hr : r.isStreamEnd = false) (hnone : s.replies = []) (hqueued : s'.queued = s.queued)
    (hreplies : s'.replies = [⟨id, r⟩]) : CallMove i d s a s' := by
  by_cases hid : id = i
  · refine .replied [r] (by simpa using hr) (.inr (hid ▸ hcalling)) (by rw [hnone]; rfl) hqueued ?_
    rw [hreplies]
    simp [hid]
  · refine .of_queued hqueued ?_
    rw [hreplies]
    simp [hid]

/-- **The frames of a call.**  Every effect is one of these for every call id. -/
theorem Effect.call (h : Effect d s a s') (i : Nat) : CallMove i d s a s' := by
  cases h with
  | answered f r greeted handled hloop hkind hstream =>
    have hqueued := queued_received s f
    by_cases hid : f.id = i
    · refine .rejected f r hid hkind hstream rfl ?_ hqueued ?_
      · simp [replies, hloop]
      · simp [replies, hid]
    · exact .of_queued hqueued (by simp [replies, hid])
  | called f handled unaries loop hloop hstream hunaries hnext =>
    refine .of_queued (queued_received s f) ?_
    rcases hnext with rfl | ⟨_, rfl⟩ | ⟨_, rfl⟩ <;> simp [replies]
  | spawned f call handled hloop hbody =>
    exact .of_queued (queued_received s f) (by simp [replies])
  | hangup a frames hloop hids loop hnext ha =>
    have hbefore : bodies i s.replies = [] := by simp [replies, hloop]
    rcases hnext with rfl | rfl
    · exact .of_queued rfl (by simp [replies])
    -- a malformed frame is answered under id 0
    · by_cases hi : i = 0
      · refine .replied (bodies i frames) (fun r hr => ?_) (.inl hi) hbefore rfl rfl
        obtain ⟨f, hf, hfr⟩ := List.mem_filterMap.mp hr
        split at hfr
        · cases hfr; exact (hids f hf).2
        · cases hfr
      · refine .of_queued rfl ?_
        show bodies i frames = []
        rw [List.eq_nil_iff_forall_not_mem]
        intro r hr
        obtain ⟨f, hf, hfr⟩ := List.mem_filterMap.mp hr
        rw [(hids f hf).1, if_neg (Ne.symm hi)] at hfr
        cases hfr
  | answeredAll after loop hloop hnext =>
    refine .of_queued rfl ?_
    rcases hnext with rfl | rfl <;> simp [replies]
  | flushed f fs after s₁ hloop hsent =>
    -- a due reply moves to the queue, or is lost with the writer: the two together do not grow
    have hrest : bodies i s.replies = bodies i [f] ++ bodies i fs := by
      rw [← bodies_append]
      simp [replies, hloop]
    have hqueued : ({ s₁ with loop := .replying fs after } : Session).queued = s₁.queued := rfl
    refine .silent ?_ ?_
    · unfold outbox
      rw [hqueued, hrest]
      rcases hsent.queued_eq with he | he
      · rw [he]
        exact (List.sublist_append_right _ _).append_left _
      · rw [he, bodies_append, List.append_assoc]
        exact List.Sublist.refl _
    · rw [hrest]
      exact List.sublist_append_right _ _
  | cancelled id target t hloop hhit =>
    exact .of_released (by simp [calling, hloop]) (by simp [releasing, hloop]) hhit rfl rfl
      (by simp [replies, hloop]) rfl rfl
  | cancelMissed id target hloop hmiss =>
    exact .of_missed (by simp [calling, hloop]) rfl (by simp [replies, hloop]) rfl rfl
  | inserted id t registry previous hloop hinsert =>
    exact .of_queued (queued_of_history (by simp)) (by simp [replies])
  | insertRefused id t e hloop hinsert =>
    exact .of_queued rfl (by simp [replies])
  | refused id t e hloop =>
    have hqueued : ((s.abort t).answer [⟨id, .error e⟩]).queued = s.queued := rfl
    by_cases hid : id = i
    · subst hid
      exact .refused t e hloop rfl (by simp [replies, hloop]) hqueued (by simp [replies, answer])
    · exact .of_queued hqueued (by simp [replies, answer, hid])
  | stopped id captureId t hloop hhit =>
    exact .of_released (by simp [calling, hloop]) (by simp [releasing, hloop]) hhit rfl rfl
      (by simp [replies, hloop]) rfl rfl
  | stopMissed id captureId hloop hmiss => exact .of_queued rfl (by simp [replies])
  | stoppedDaemon id captureId hloop hhit =>
    -- the number named is a capture id, yet the `StreamEnd` goes out under it
    by_cases hid : captureId = i
    · subst hid
      exact .forced _ (by simp [forcing, hloop]) hhit rfl
    · by_cases hown : id = i
      · refine .replied [.captureFinished captureId "stopped"] (by simp [Reply.isStreamEnd])
          (.inr (by simp [calling, hloop, hown])) (by simp [replies, hloop]) rfl ?_
        simp [replies, answer, stopReplies, hid, hown]
      · exact .of_queued rfl (by simp [replies, answer, stopReplies, hid, hown])
  | stopFailed id captureId e hloop hmiss =>
    exact .of_missed (by simp [calling, hloop]) rfl (by simp [replies, hloop]) rfl rfl
  | tornDown hloop => exact .of_queued (queued_of_history (by simp)) (by simp [replies])
  | polled => exact .of_eq rfl rfl
  | yielded => exact .of_eq rfl rfl
  | bodyMoved => exact .of_eq rfl rfl
  | bodySent t task task' b r input s₁ htask hstatus hpc hmove hsent =>
    refine .of_sent hsent rfl hsent.loop_eq fun hid hqueued hreplies => ?_
    exact .item t task b r input htask hid hstatus hpc (hmove.reply_ne r rfl) hqueued hreplies
  | ended t task outcome input s₁ htask hstatus hpc hsent =>
    refine .of_sent hsent rfl hsent.loop_eq fun hid hqueued hreplies => ?_
    exact .ended t task outcome input htask hid hstatus hpc hsent.tasks_setTask hqueued hreplies
  | removed => exact .of_eq rfl rfl
  | forwarderMoved => exact .of_eq rfl rfl
  | forwarderSent t task f f' act s₁ htask hf hfinished hbusy hsent =>
    refine .of_sent hsent rfl hsent.loop_eq fun hid hqueued hreplies => ?_
    exact .check t task f act htask hid hf hbusy hqueued hreplies
  | unaryReplied u call error r s₁ hcall hkind hsent =>
    refine .of_sent hsent rfl hsent.loop_eq fun hid hqueued hreplies => ?_
    exact .unary u call error r (List.mem_of_getElem? hcall) hid hkind hqueued hreplies
  | wrote => exact .of_eq rfl rfl

/-! ### The calls that were made -/

/-- The history after handing a frame to the responder. -/
theorem Sent.history_cons {f : ServerFrame} {s₁ : Session} (h : Sent s f s₁) :
    s₁.history = s.history ∨ ∃ e, s₁.history = e :: s.history := by
  rcases h.history_eq with he | he
  · exact .inl he
  · exact .inr ⟨_, he⟩

/-- A step adds at most one event to the history. -/
theorem Effect.history (h : Effect d s a s') :
    s'.history = s.history ∨ ∃ e, s'.history = e :: s.history := by
  cases h
  case answered => exact .inr ⟨_, rfl⟩
  case called => exact .inr ⟨_, rfl⟩
  case spawned => exact .inr ⟨_, rfl⟩
  case flushed hsent => exact hsent.history_cons
  case bodySent hsent => exact hsent.history_cons
  case ended hsent => exact hsent.history_cons
  case forwarderSent hsent => exact hsent.history_cons
  case unaryReplied hsent => exact hsent.history_cons
  case inserted => exact .inl (by simp)
  case tornDown => exact .inl (by simp)
  all_goals exact .inl rfl

/-- A session remembers what it read. -/
theorem Effect.asked_mono (h : Effect d s a s') (hasked : s.asked i = true) :
    s'.asked i = true := by
  unfold asked at hasked ⊢
  rcases h.history with he | ⟨e, he⟩
  · rw [he]; exact hasked
  · rw [he, List.any_cons, hasked, Bool.or_true]

/-- A session remembers the frame it reads. -/
theorem Effect.asked_receive {f : ClientFrame} (h : Effect d s (.receive f) s') :
    s'.asked f.id = true := by
  cases h with
  | answered => simp [asked]
  | called => simp [asked]
  | spawned => simp [asked]
  | hangup a frames hloop hids loop hnext ha => exact absurd rfl (ha f)
  | wrote a pending writerOpen ha => simp at ha

/-- A unary task has the id of the frame that made the call, which is no stream. -/
theorem Effect.unaries (h : Effect d s a s') {u : UnaryTask} (hu : u ∈ s'.unaries) :
    u ∈ s.unaries ∨ ∃ f ∈ a.frame, f.id = u.id ∧ f.isStream = false := by
  cases h
  case called f handled unaries loop hloop hstream hunaries hnext =>
    rcases hunaries u hu with hold | hnew
    · exact .inl hold
    · exact .inr ⟨f, rfl, hnew.symm, ClientFrame.isStream_eq_false hstream⟩
  case flushed hsent => exact .inl (hsent.unaries_eq ▸ hu)
  case bodySent hsent => exact .inl (hsent.unaries_eq ▸ hu)
  case ended hsent => exact .inl (hsent.unaries_eq ▸ hu)
  case forwarderSent hsent => exact .inl (hsent.unaries_eq ▸ hu)
  case unaryReplied hsent => exact .inl (hsent.unaries_eq ▸ List.mem_of_mem_eraseIdx hu)
  case inserted => exact .inl (by simpa using hu)
  case tornDown => exact .inl (by simpa using hu)
  all_goals exact .inl hu

/-- The read loop works on a `Cancel` or `StopCapture` it has read. -/
theorem Effect.calling (h : Effect d s a s') {id : Nat} (hid : s'.calling = some id) :
    s.calling = some id ∨ ∃ f ∈ a.frame, f.id = id ∧ f.isStream = false := by
  cases h
  case called f handled unaries loop hloop hstream hunaries hnext =>
    refine .inr ⟨f, rfl, ?_, ClientFrame.isStream_eq_false hstream⟩
    rcases hnext with rfl | ⟨_, rfl⟩ | ⟨_, rfl⟩
    · cases hid
    · exact Option.some.inj hid
    · exact Option.some.inj hid
  case hangup loop hnext ha => rcases hnext with rfl | rfl <;> cases hid
  case answeredAll loop hloop hnext => rcases hnext with rfl | rfl <;> cases hid
  case bodySent hsent => exact .inl (by simpa [Session.calling, setTask, hsent.loop_eq] using hid)
  case ended hsent => exact .inl (by simpa [Session.calling, setTask, hsent.loop_eq] using hid)
  case forwarderSent hsent =>
    exact .inl (by simpa [Session.calling, setTask, hsent.loop_eq] using hid)
  case unaryReplied hsent => exact .inl (by simpa [Session.calling, hsent.loop_eq] using hid)
  case inserted => simp [Session.calling] at hid
  case tornDown => simp [Session.calling] at hid
  case stopMissed hloop hmiss => exact .inl (by simpa [Session.calling, hloop] using hid)
  all_goals first | exact .inl hid | cases hid

end Session

end Netdiag.Ipc
