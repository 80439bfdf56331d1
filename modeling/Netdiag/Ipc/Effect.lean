import Netdiag.Ipc.Session

namespace Netdiag.Ipc

/-!
# IPC — what a step of a session can do

Every invariant of a session is an induction over its steps.  This file says once what a
step can do, so that those inductions never unfold `step`:

* `BodyMove` / `bodyStep_move` — what any stream body can do to its task;
* `Sent` / `send_sent` — what handing a frame to the responder can do;
* `Effect` / `step_effect` — the inversion lemma: every step is one of these, with the
  state it was taken in.
-/

/-! ### Stream bodies -/

/-- Once `diagnose_stream` is past `forwarder.await` its forwarder has returned. -/
def StreamTask.Joined (t : StreamTask) : Prop :=
  t.pc = .body .diagnose ∨ t.pc = .body .join ∨ ∀ f ∈ t.forwarder, f.finished = true

/-- What a step of a stream body can do to its task, and which frames it can queue. -/
structure BodyMove (t t' : StreamTask) (reply : Option Reply) : Prop where
  id_eq : t'.id = t.id
  status_eq : t'.status = t.status
  abort_eq : t'.abortRequested = t.abortRequested
  pc_ne : t'.pc ≠ .removing
  reply_ne : ∀ r ∈ reply, r.isTerminator = false
  joined : t.Joined → t'.Joined

/-- Every step of every body is a `BodyMove`. -/
theorem bodyStep_move {ref : TaskRef} {d : Daemon} {sendOk : Bool} {t : StreamTask} {b : Body}
    {input : Input} {res : BodyResult} (h : bodyStep ref d sendOk t b input = some res)
    (hpc : t.pc = .body b) : BodyMove t res.task res.reply := by
  unfold bodyStep at h
  -- one goal per await of the bodies; the branches that do not step close at once
  split at h
  all_goals try (cases h; done)
  all_goals try split at h
  all_goals try split at h
  all_goals try (cases h; done)
  all_goals
    cases h
    exact ⟨rfl, rfl, rfl, by simp [hpc], by simp [Reply.isTerminator], by
      simp_all [StreamTask.Joined]⟩

/-! ### Aborts -/

@[simp] theorem StreamTask.abort_abort (task : StreamTask) : task.abort.abort = task.abort := by
  by_cases h : task.Live
  · have h' : ({ task with abortRequested := true } : StreamTask).Live := h
    simp [abort, h, h']
  · simp [abort, h]

namespace Session

variable {conn : Nat} {d d' : Daemon} {s s' s₁ : Session} {a : Action}

/-! ### Sending -/

@[simp] theorem queued_received (s : Session) (f : ClientFrame) :
    ({ s with history := .received f :: s.history } : Session).queued = s.queued := by
  simp [queued]

/-- The result of handing `frame` to the responder: it is queued, or lost because the
    writer is gone.  Nothing but the queue moves. -/
structure Sent (s : Session) (frame : ServerFrame) (s' : Session) : Prop where
  tasks_eq : s'.tasks = s.tasks
  registry_eq : s'.registry = s.registry
  loop_eq : s'.loop = s.loop
  unaries_eq : s'.unaries = s.unaries
  history_eq : s'.history = s.history ∨ s'.history = .queued frame :: s.history

/-- `Responder::send` queues or loses the frame. -/
theorem send_sent {frame : ServerFrame} (h : s.send frame = some s') : Sent s frame s' := by
  unfold send at h
  split at h
  · cases h; exact ⟨rfl, rfl, rfl, rfl, .inl rfl⟩
  · split at h
    · cases h; exact ⟨rfl, rfl, rfl, rfl, .inr rfl⟩
    · cases h

/-- The queue after a send. -/
theorem Sent.queued_eq {frame : ServerFrame} (h : Sent s frame s') :
    s'.queued = s.queued ∨ s'.queued = s.queued ++ [frame] := by
  rcases h.history_eq with he | he
  · left; simp [queued, he]
  · right; simp [queued, he]

/-- Sending and then overwriting a task. -/
theorem Sent.tasks_setTask {frame : ServerFrame} (h : Sent s frame s') {t : Nat}
    {task : StreamTask} : (s'.setTask t task).tasks = s.tasks.set t task := by
  show s'.tasks.set t task = _
  rw [h.tasks_eq]

/-! ### The task table -/

theorem tasks_abort (s : Session) (t u : Nat) :
    (s.abort t).tasks[u]? = if t = u then s.tasks[u]?.map StreamTask.abort else s.tasks[u]? := by
  show (s.tasks.modify t StreamTask.abort)[u]? = _
  rw [List.getElem?_modify]
  split <;> simp

theorem tasks_abortEach (handles : List Nat) (s : Session) (u : Nat) :
    (s.abortEach handles).tasks[u]?
      = if u ∈ handles then s.tasks[u]?.map StreamTask.abort else s.tasks[u]? := by
  induction handles generalizing s with
  | nil => simp [abortEach]
  | cons t rest ih =>
    show ((s.abort t).abortEach rest).tasks[u]? = _
    rw [ih, tasks_abort]
    by_cases htu : t = u
    · subst htu
      simp [Option.map_map, Function.comp_def]
    · simp [htu, Ne.symm htu]

/-- Aborting touches nothing but the task table. -/
@[simp] theorem abortEach_fields (handles : List Nat) (s : Session) :
    (s.abortEach handles).registry = s.registry ∧ (s.abortEach handles).loop = s.loop ∧
      (s.abortEach handles).history = s.history ∧
      (s.abortEach handles).unaries = s.unaries := by
  induction handles generalizing s with
  | nil => simp [abortEach]
  | cons t rest ih => exact ih (s.abort t)

/-! ### The inversion lemma -/

/-- Everything a step of a session can do.  Each constructor gives the action, the
    state it needs and the state it leads to. -/
inductive Effect (d : Daemon) (s : Session) : Action → Session → Prop
  /-- A frame is answered on the spot. -/
  | answered (f : ClientFrame) (r : Reply) (greeted : Bool) (handled : Nat)
      (hloop : s.loop = .reading) (hkind : r.isStreamEnd = false)
      (hstream : ∀ call, f.body = some (.stream call) → r.isTerminator = true) :
      Effect d s (.receive f)
        { s with history := .received f :: s.history, greeted, handled,
                 loop := .replying [⟨f.id, r⟩] .read }
  /-- A `Cancel` or `StopCapture` waits for the registry; a unary call is spawned. -/
  | called (f : ClientFrame) (handled : Nat) (unaries : List UnaryTask) (loop : LoopPc)
      (hloop : s.loop = .reading) (hstream : ∀ call, f.body ≠ some (.stream call))
      (hunaries : ∀ u ∈ unaries, u ∈ s.unaries ∨ u.id = f.id)
      (hnext : loop = .reading ∨ (∃ target, loop = .cancelling f.id target) ∨
        ∃ captureId, loop = .stopping f.id captureId) :
      Effect d s (.receive f)
        { s with history := .received f :: s.history, handled, unaries, loop }
  /-- A streaming call is spawned. -/
  | spawned (f : ClientFrame) (call : StreamCall) (handled : Nat)
      (hloop : s.loop = .reading) (hbody : f.body = some (.stream call)) :
      Effect d s (.receive f)
        { s with history := .received f :: s.history, handled,
                 tasks := s.tasks ++ [.spawned f.id call],
                 loop := .inserting f.id s.tasks.length }
  /-- The connection is about to be torn down. -/
  | hangup (a : Action) (frames : List ServerFrame) (hloop : s.loop = .reading)
      (hids : ∀ f ∈ frames, f.id = 0 ∧ f.body.isStreamEnd = false) (loop : LoopPc)
      (hnext : loop = .teardown ∨ loop = .replying frames .teardown)
      (ha : ∀ f, a ≠ .receive f) :
      Effect d s a { s with loop }
  /-- All replies are queued. -/
  | answeredAll (after : After) (loop : LoopPc) (hloop : s.loop = .replying [] after)
      (hnext : loop = .reading ∨ loop = .teardown) :
      Effect d s .loop { s with loop }
  /-- The read loop queues its next reply. -/
  | flushed (f : ServerFrame) (fs : List ServerFrame) (after : After) (s₁ : Session)
      (hloop : s.loop = .replying (f :: fs) after) (hsent : Sent s f s₁) :
      Effect d s .loop { s₁ with loop := .replying fs after }
  /-- `Cancel` found the stream. -/
  | cancelled (id target t : Nat) (hloop : s.loop = .cancelling id target)
      (hhit : s.registry.lookup target = some t) :
      Effect d s .loop (({ s with registry := s.registry.remove target }.abort t).answer
        (cancelReplies id target true))
  /-- `Cancel` found nothing. -/
  | cancelMissed (id target : Nat) (hloop : s.loop = .cancelling id target)
      (hmiss : s.registry.lookup target = none) :
      Effect d s .loop ({ s with registry := s.registry.remove target }.answer
        (cancelReplies id target false))
  /-- The handle of a new stream is filed. -/
  | inserted (id t : Nat) (registry : StreamRegistry) (previous : Option Nat)
      (hloop : s.loop = .inserting id t)
      (hinsert : s.registry.insert id t = .ok (registry, previous)) :
      Effect d s .loop (({ s with registry, loop := .reading } : Session).abortEach
        previous.toList)
  /-- The registry is full. -/
  | insertRefused (id t : Nat) (e : Error) (hloop : s.loop = .inserting id t)
      (hinsert : s.registry.insert id t = .error e) :
      Effect d s .loop { s with loop := .refused id t e }
  /-- The task whose handle was refused is aborted. -/
  | refused (id t : Nat) (e : Error) (hloop : s.loop = .refused id t e) :
      Effect d s .loop ((s.abort t).answer [⟨id, .error e⟩])
  /-- `StopCapture` found a stream of that number in the registry. -/
  | stopped (id captureId t : Nat) (hloop : s.loop = .stopping id captureId)
      (hhit : s.registry.lookup captureId = some t) :
      Effect d s .loop (({ s with registry := s.registry.remove captureId }.abort t).answer
        (stopReplies id captureId))
  /-- `StopCapture` turns to the daemon's captures. -/
  | stopMissed (id captureId : Nat) (hloop : s.loop = .stopping id captureId)
      (hmiss : s.registry.lookup captureId = none) :
      Effect d s .loop { s with registry := s.registry.remove captureId,
                                loop := .stoppingDaemon id captureId }
  /-- `StopCapture` raised a stop flag. -/
  | stoppedDaemon (id captureId : Nat) (hloop : s.loop = .stoppingDaemon id captureId)
      (hhit : d.captures.lookup captureId ≠ none) :
      Effect d s .loop (s.answer (stopReplies id captureId))
  /-- `StopCapture` found nothing at all. -/
  | stopFailed (id captureId : Nat) (e : Error)
      (hloop : s.loop = .stoppingDaemon id captureId)
      (hmiss : d.captures.lookup captureId = none) :
      Effect d s .loop (s.answer [⟨id, .error e⟩])
  /-- `abort_all`. -/
  | tornDown (hloop : s.loop = .teardown) :
      Effect d s .loop (({ s with registry := .new, loop := .closed } : Session).abortEach
        s.registry.handles)
  /-- A parked task is taken up. -/
  | polled (t : Nat) (task : StreamTask) (htask : s.tasks[t]? = some task)
      (hstatus : task.status = .idle) : Effect d s (.poll t) (s.setTask t task.poll)
  /-- A poll ends at an await. -/
  | yielded (t : Nat) (task : StreamTask) (htask : s.tasks[t]? = some task)
      (hstatus : task.status = .polling) : Effect d s (.yield t) (s.setTask t task.yield)
  /-- A stream body moves without queueing a frame. -/
  | bodyMoved (t : Nat) (task task' : StreamTask) (b : Body) (input : Input)
      (htask : s.tasks[t]? = some task)
      (hstatus : task.status = .polling) (hpc : task.pc = .body b)
      (hmove : BodyMove task task' none) :
      Effect d s (.task t input) (s.setTask t task')
  /-- A stream body queues an item. -/
  | bodySent (t : Nat) (task task' : StreamTask) (b : Body) (r : Reply) (input : Input)
      (s₁ : Session) (htask : s.tasks[t]? = some task)
      (hstatus : task.status = .polling) (hpc : task.pc = .body b)
      (hmove : BodyMove task task' (some r)) (hsent : Sent s ⟨task.id, r⟩ s₁) :
      Effect d s (.task t input) (s₁.setTask t task')
  /-- A stream task queues its `StreamEnd`. -/
  | ended (t : Nat) (task : StreamTask) (outcome : StreamOutcome) (input : Input)
      (s₁ : Session) (htask : s.tasks[t]? = some task)
      (hstatus : task.status = .polling) (hpc : task.pc = .ending outcome)
      (hsent : Sent s ⟨task.id, .streamEnd outcome⟩ s₁) :
      Effect d s (.task t input) (s₁.setTask t { task with pc := .removing })
  /-- A stream task leaves the registry and returns. -/
  | removed (t : Nat) (task : StreamTask) (input : Input) (htask : s.tasks[t]? = some task)
      (hstatus : task.status = .polling) (hpc : task.pc = .removing) :
      Effect d s (.task t input)
        ({ s with registry := s.registry.remove task.id }.setTask t
          { task with status := .finished })
  /-- A forwarder moves without queueing a frame. -/
  | forwarderMoved (t : Nat) (task : StreamTask) (f f' : Forwarder) (act : ForwarderAct)
      (htask : s.tasks[t]? = some task) (hf : task.forwarder = some f)
      (hfinished : f.finished = false) (hquiet : f.Quiet → f'.Quiet) :
      Effect d s (.forwarder t act) (s.setTask t { task with forwarder := some f' })
  /-- A forwarder queues a check. -/
  | forwarderSent (t : Nat) (task : StreamTask) (f f' : Forwarder) (act : ForwarderAct)
      (s₁ : Session) (htask : s.tasks[t]? = some task) (hf : task.forwarder = some f)
      (hfinished : f.finished = false) (hbusy : ¬ f.Quiet)
      (hsent : Sent s ⟨task.id, .diagnose .check⟩ s₁) :
      Effect d s (.forwarder t act) (s₁.setTask t { task with forwarder := some f' })
  /-- A unary call replies. -/
  | unaryReplied (u : Nat) (call : UnaryTask) (error : Option Error) (r : Reply) (s₁ : Session)
      (hcall : s.unaries[u]? = some call) (hkind : r.isStreamEnd = false)
      (hsent : Sent s ⟨call.id, r⟩ s₁) :
      Effect d s (.unary u error) { s₁ with unaries := s₁.unaries.eraseIdx u }
  /-- The writer takes a frame, or gives up. -/
  | wrote (a : Action) (pending : Nat) (writerOpen : Bool)
      (ha : a = .writerTake ∨ a = .writerClose) :
      Effect d s a { s with pending, writerOpen }

/-- Reading a frame is one of `answered`, `called` and `spawned`. -/
theorem receive_effect (f : ClientFrame) (hloop : s.loop = .reading) :
    Effect d s (.receive f) (s.receive f) := by
  unfold receive
  cases hb : f.body with
  | none => exact .answered f _ s.greeted s.handled hloop (by simp) (by simp)
  | some body =>
    simp only
    split
    -- id 0 marks a malformed frame and is never a call: the error goes out under it
    · rename_i hid
      have := Effect.answered (d := d) f (.error (.invalid "request id must not be zero"))
        s.greeted s.handled hloop (by simp) (by simp)
      rwa [hid] at this
    · cases body with
      | hello => exact .answered f _ true (s.handled + 1) hloop rfl (by simp [hb])
      | cancel target =>
        exact .called f (s.handled + 1) s.unaries (.cancelling f.id target) hloop (by simp [hb])
          (fun u hu => .inl hu) (.inr (.inl ⟨target, rfl⟩))
      | unary call =>
        simp only
        split
        · exact .called f (s.handled + 1) (s.unaries ++ [⟨f.id, call⟩]) .reading hloop
            (by simp [hb]) (by simp only [List.mem_append, List.mem_singleton]; grind)
            (.inl rfl)
        · exact .answered f _ s.greeted (s.handled + 1) hloop (by simp) (by simp)
      | stopCapture captureId =>
        simp only
        split
        · exact .called f (s.handled + 1) s.unaries (.stopping f.id captureId) hloop
            (by simp [hb]) (fun u hu => .inl hu) (.inr (.inr ⟨captureId, rfl⟩))
        · exact .answered f _ s.greeted (s.handled + 1) hloop (by simp) (by simp)
      | stream call =>
        simp only
        split
        · exact .spawned f call (s.handled + 1) hloop hb
        · exact .answered f _ s.greeted (s.handled + 1) hloop (by simp) (by simp)

/-- The read loop past an await. -/
theorem loopStep_effect (h : s.loopStep d = some (d', s')) : Effect d s .loop s' := by
  -- one bullet per await of the read loop, in the order `loopStep` lists them
  unfold loopStep at h
  split at h
  · cases h
  · rename_i hl; cases h; exact .answeredAll .read .reading hl (.inl rfl)
  · rename_i hl; cases h; exact .answeredAll .teardown .teardown hl (.inr rfl)
  · rename_i f fs after hl
    obtain ⟨s₁, hs₁, he⟩ := Option.map_eq_some_iff.mp h
    cases he
    exact .flushed f fs after s₁ hl (send_sent hs₁)
  · rename_i id target hl
    simp only [StreamRegistry.cancel] at h
    cases ht : s.registry.lookup target with
    | some t => rw [ht] at h; cases h; exact .cancelled id target t hl ht
    | none => rw [ht] at h; cases h; exact .cancelMissed id target hl ht
  · rename_i id t hl
    split at h
    · rename_i registry previous hi
      cases h
      exact .inserted id t registry (some previous) hl hi
    · rename_i registry hi
      cases h
      exact .inserted id t registry none hl hi
    · rename_i e hi; cases h; exact .insertRefused id t e hl hi
  · rename_i id t e hl; cases h; exact .refused id t e hl
  · rename_i id captureId hl
    simp only [StreamRegistry.cancel] at h
    cases ht : s.registry.lookup captureId with
    | some t => rw [ht] at h; cases h; exact .stopped id captureId t hl ht
    | none => rw [ht] at h; cases h; exact .stopMissed id captureId hl ht
  · rename_i id captureId hl
    simp only [Daemon.stopCapture] at h
    cases hc : d.captures.lookup captureId with
    | some flag => rw [hc] at h; cases h; exact .stoppedDaemon id captureId hl (by simp [hc])
    | none => rw [hc] at h; cases h; exact .stopFailed id captureId _ hl hc
  · rename_i hl; cases h; exact .tornDown hl
  · cases h

/-- What a worker that polls task `t` can do with it: two awaits of its body, with and
    without a frame, then `end_stream` and `registry.remove`. -/
inductive TaskStep (conn : Nat) (d : Daemon) (s : Session) (t : Nat) (input : Input)
    (task : StreamTask) : Daemon → Session → Prop
  | moved (b : Body) (d' : Daemon) (task' : StreamTask) (hpc : task.pc = .body b)
      (hbody : bodyStep ⟨conn, t⟩ d s.writerOpen task b input = some ⟨d', task', none⟩) :
      TaskStep conn d s t input task d' (s.setTask t task')
  | sent (b : Body) (d' : Daemon) (task' : StreamTask) (r : Reply) (s₁ : Session)
      (hpc : task.pc = .body b)
      (hbody : bodyStep ⟨conn, t⟩ d s.writerOpen task b input = some ⟨d', task', some r⟩)
      (hsend : s.send ⟨task'.id, r⟩ = some s₁) :
      TaskStep conn d s t input task d' (s₁.setTask t task')
  | ended (outcome : StreamOutcome) (s₁ : Session) (hpc : task.pc = .ending outcome)
      (hsend : s.send ⟨task.id, .streamEnd outcome⟩ = some s₁) :
      TaskStep conn d s t input task d (s₁.setTask t { task with pc := .removing })
  | removed (hpc : task.pc = .removing) :
      TaskStep conn d s t input task d
        ({ s with registry := s.registry.remove task.id }.setTask t
          { task with status := .finished })

/-- Inversion of a step of a stream task. -/
theorem runTask_cases {t : Nat} {input : Input} (h : s.runTask conn d t input = some (d', s')) :
    ∃ task, s.tasks[t]? = some task ∧ task.status = .polling ∧
      TaskStep conn d s t input task d' s' := by
  unfold runTask at h
  split at h
  · cases h
  · rename_i task htask
    split at h
    · cases h
    · rename_i hst
      refine ⟨task, htask, by simpa using hst, ?_⟩
      split at h
      -- In its body, a task moves, or moves and sends.
      · rename_i b hpc
        split at h
        · cases h
        · rename_i d₁ task' hb
          cases h
          exact .moved b _ task' hpc hb
        · rename_i d₁ task' r hb
          obtain ⟨s₁, hs₁, he⟩ := Option.map_eq_some_iff.mp h
          cases he
          exact .sent b _ task' r s₁ hpc hb hs₁
      · rename_i outcome hpc
        obtain ⟨s₁, hs₁, he⟩ := Option.map_eq_some_iff.mp h
        cases he
        exact .ended outcome s₁ hpc hs₁
      · rename_i hpc
        cases h
        exact .removed hpc

/-- A step of a stream task. -/
theorem runTask_effect {t : Nat} {input : Input}
    (h : s.runTask conn d t input = some (d', s')) : Effect d s (.task t input) s' := by
  obtain ⟨task, htask, hstatus, hstep⟩ := runTask_cases h
  cases hstep with
  | moved b d₁ task' hpc hbody =>
    exact .bodyMoved t task task' b input htask hstatus hpc (bodyStep_move hbody hpc)
  | sent b d₁ task' r s₁ hpc hbody hsend =>
    have hmove := bodyStep_move hbody hpc
    refine .bodySent t task task' b r input s₁ htask hstatus hpc hmove ?_
    -- the frame carries the id of the task before the step
    rw [← hmove.id_eq]
    exact send_sent hsend
  | ended outcome s₁ hpc hsend =>
    exact .ended t task outcome input s₁ htask hstatus hpc (send_sent hsend)
  | removed hpc => exact .removed t task input htask hstatus hpc

/-- A step of a forwarder. -/
theorem runForwarder_effect {t : Nat} {act : ForwarderAct}
    (h : s.runForwarder t act = some s') : Effect d s (.forwarder t act) s' := by
  unfold runForwarder at h
  split at h
  · cases h
  · rename_i task htask
    split at h
    · cases h
    · rename_i f hf
      simp only at h
      split at h
      · cases h
      · rename_i hfin
        have hfinished : f.finished = false := by simpa using hfin
        cases act with
        | recv =>
          simp only at h
          split at h
          · rename_i hg
            cases h
            -- a quiet forwarder has nothing to receive
            refine .forwarderMoved t task f _ .recv htask hf hfinished (fun hq => ?_)
            rcases hq with hq | ⟨hq, -⟩
            · simp [hfinished] at hq
            · omega
          · cases h
        | reply =>
          simp only at h
          split at h
          · cases h
          · rename_i hh
            split at h
            · obtain ⟨s₁, hs₁, he⟩ := Option.map_eq_some_iff.mp h
              cases he
              refine .forwarderSent t task f _ .reply s₁ htask hf hfinished ?_ (send_sent hs₁)
              simp [Forwarder.Quiet, hfinished, hh]
            · cases h
              -- the queue is closed: the forwarder breaks out of its loop
              exact .forwarderMoved t task f _ .reply htask hf hfinished (fun _ => .inl rfl)
        | exit =>
          simp only at h
          split at h
          · cases h
            exact .forwarderMoved t task f _ .exit htask hf hfinished (fun _ => .inl rfl)
          · cases h

/-- A unary call returns. -/
theorem runUnary_effect {u : Nat} {error : Option Error}
    (h : s.runUnary u error = some s') : Effect d s (.unary u error) s' := by
  unfold runUnary at h
  split at h
  · cases h
  · rename_i call hcall
    obtain ⟨s₁, hs₁, he⟩ := Option.map_eq_some_iff.mp h
    cases he
    refine .unaryReplied u call error _ s₁ hcall ?_ (send_sent hs₁)
    cases error <;> rfl

/-- **Inversion of `step`.**  Every step of a session has one of the listed effects. -/
theorem step_effect (h : step conn d s a = some (d', s')) : Effect d s a s' := by
  cases a with
  | receive f =>
    simp only [step] at h
    split at h
    · rename_i hl; cases h; exact receive_effect f hl
    · cases h
  -- A broken frame and a closed stream both end the loop.
  | malformed detail =>
    simp only [step] at h
    split at h
    · rename_i hl; cases h
      exact .hangup _ _ hl (by simp) _ (.inr rfl) (by simp)
    · cases h
  | disconnect =>
    simp only [step] at h
    split at h
    · rename_i hl; cases h
      exact .hangup _ [] hl (by simp) _ (.inl rfl) (by simp)
    · cases h
  | loop => exact loopStep_effect h
  | poll t =>
    simp only [step] at h
    split at h
    · rename_i task htask
      split at h
      · rename_i hst; cases h; exact .polled t task htask hst
      · cases h
    · cases h
  | yield t =>
    simp only [step] at h
    split at h
    · rename_i task htask
      split at h
      · rename_i hst; cases h; exact .yielded t task htask hst
      · cases h
    · cases h
  | task t input => exact runTask_effect h
  | forwarder t act =>
    obtain ⟨s₁, hs₁, he⟩ := Option.map_eq_some_iff.mp h
    cases he
    exact runForwarder_effect hs₁
  | unary u error =>
    obtain ⟨s₁, hs₁, he⟩ := Option.map_eq_some_iff.mp h
    cases he
    exact runUnary_effect hs₁
  -- The writer takes what is queued, and may go away.
  | writerTake =>
    simp only [step] at h
    split at h
    · cases h; exact .wrote _ _ _ (.inl rfl)
    · cases h
  | writerClose => cases h; exact .wrote _ _ _ (.inr rfl)

end Session

/-- **Session invariants.**  What holds of a fresh connection and survives every effect
    under `P` holds of connection `k` in every run whose steps on `k` meet `P`, whatever the
    other connections do. -/
theorem Server.session_invariant {k : Nat} {P : Daemon → Session → Session.Action → Prop}
    {Inv : Session → Prop} {w : Server} (hrun : Server.Run (Server.On k P) w)
    (h0 : Inv Session.init)
    (hstep : ∀ d s a s', Inv s → P d s a → Session.Effect d s a s' → Inv s') :
    Inv (w.comp k) := by
  -- a step of another connection leaves connection `k` as it is, whatever it does to the daemon
  refine hrun.component h0 ?_
  intro v a d' s' hinv hok hs
  exact hstep _ _ a s' hinv (hok rfl) (Session.step_effect hs)

end Netdiag.Ipc
