import Netdiag.Ipc.Call

namespace Netdiag.Ipc.Session

/-!
# IPC — which calls a session answers with an error

An `error` frame ends any call, so a client that waits for a `stream_end` wants to know when
it gets one instead:

* `step_flags`, `step_greeted`, `receive_greeted` — a session that has been greeted stays so;
* `Fresh` — before it is greeted, a session that has read nothing has nothing to say to any
  call;
* `receive_stream` — a greeted session spawns every streaming call it reads;
* `Effect.error` — every `error` frame goes back to a malformed frame, to a call that is no
  stream, to a frame that was turned away as it was read, or to the stream limit.
-/

variable {conn : Nat} {d d' : Daemon} {s s' s₁ : Session} {a : Action}

/-! ### The greeting -/

/-- What the tasks of a session and its read loop leave alone, frames that are read apart: the
    greeting and the state of the writer. -/
def flags (s : Session) : Bool × Bool := (s.greeted, s.writerOpen)

/-- What the tasks leave alone: the read loop, too. -/
def control (s : Session) : (Bool × Bool) × LoopPc := (s.flags, s.loop)

/-- Sending a frame does not touch what controls the session. -/
theorem send_control {f : ServerFrame} (h : s.send f = some s') : s'.control = s.control := by
  unfold send at h
  split at h
  · cases h; rfl
  · split at h
    · cases h; rfl
    · cases h

/-- Aborting tasks does not touch the flags. -/
theorem abortEach_flags (handles : List Nat) (s : Session) :
    (s.abortEach handles).flags = s.flags := by
  induction handles generalizing s with
  | nil => rfl
  | cons t rest ih => exact ih (s.abort t)

/-- Nor does the loop. -/
theorem loopStep_flags (h : s.loopStep d = some (d', s')) : s'.flags = s.flags := by
  unfold loopStep at h
  split at h
  case h_4 =>
    obtain ⟨s₁, hs, he⟩ := Option.map_eq_some_iff.mp h
    cases he
    exact (congrArg Prod.fst (send_control hs) :)
  case h_10 => cases h; exact abortEach_flags _ _
  all_goals
    try split at h
    all_goals cases h
    all_goals rfl

/-- Nor does a task touch what controls the session. -/
theorem runTask_control {t : Nat} {input : Input} (h : s.runTask conn d t input = some (d', s')) :
    s'.control = s.control := by
  obtain ⟨task, -, -, hstep⟩ := runTask_cases h
  cases hstep with
  | moved | removed => rfl
  | sent b d₁ task' r s₁ hpc hbody hsend => exact (send_control hsend :)
  | ended outcome s₁ hpc hsend => exact (send_control hsend :)

/-- Nor does a forwarder. -/
theorem runForwarder_control {t : Nat} {act : ForwarderAct} (h : s.runForwarder t act = some s') :
    s'.control = s.control := by
  unfold runForwarder at h
  split at h
  · cases h
  · split at h
    · cases h
    · simp only at h
      split at h
      · cases h
      · split at h
        · split at h
          · cases h; rfl
          · cases h
        · split at h
          · cases h
          · split at h
            · obtain ⟨s₁, hs, rfl⟩ := Option.map_eq_some_iff.mp h
              exact (send_control hs :)
            · cases h; rfl
        · split at h
          · cases h; rfl
          · cases h

/-- Nor does a unary call. -/
theorem runUnary_control {u : Nat} {error : Option Error} (h : s.runUnary u error = some s') :
    s'.control = s.control := by
  unfold runUnary at h
  split at h
  · cases h
  · obtain ⟨s₁, hs, rfl⟩ := Option.map_eq_some_iff.mp h
    exact (send_control hs :)

/-- Tasks and the writer leave the read loop alone. -/
theorem step_control (h : step conn d s a = some (d', s')) (ha : ∀ f, a ≠ .receive f)
    (hm : ∀ detail, a ≠ .malformed detail) (hd : a ≠ .disconnect) (hl : a ≠ .loop)
    (hw : a ≠ .writerClose) : s'.control = s.control := by
  cases a with
  | receive f => exact absurd rfl (ha f)
  | malformed detail => exact absurd rfl (hm detail)
  | disconnect => exact absurd rfl hd
  | loop => exact absurd rfl hl
  | poll t | yield t =>
    simp only [step] at h
    split at h
    · split at h <;> cases h
      rfl
    · cases h
  -- What is left are tasks, forwarders and the writer, which do not touch the loop.
  | task t input => exact runTask_control h
  | forwarder t act =>
    obtain ⟨s₁, hs, he⟩ := Option.map_eq_some_iff.mp h
    cases he
    exact runForwarder_control hs
  | unary u error =>
    obtain ⟨s₁, hs, he⟩ := Option.map_eq_some_iff.mp h
    cases he
    exact runUnary_control hs
  | writerTake =>
    simp only [step] at h
    split at h <;> cases h
    rfl
  | writerClose => exact absurd rfl hw

/-- Nothing but a frame that is read or the end of the writer touches the flags. -/
theorem step_flags (h : step conn d s a = some (d', s')) (ha : ∀ f, a ≠ .receive f)
    (hw : a ≠ .writerClose) : s'.flags = s.flags := by
  cases a with
  | receive f => exact absurd rfl (ha f)
  | malformed detail =>
    simp only [step] at h
    split at h <;> cases h
    rfl
  | disconnect =>
    simp only [step] at h
    split at h <;> cases h
    rfl
  | loop => exact loopStep_flags h
  | _ => exact congrArg Prod.fst (step_control h (by simp) (by simp) (by simp) (by simp) hw)

/-- Nothing but a frame that is read touches the greeting. -/
theorem step_greeted (h : step conn d s a = some (d', s')) (ha : ∀ f, a ≠ .receive f) :
    s'.greeted = s.greeted := by
  by_cases hw : a = .writerClose
  · subst hw
    cases h
    rfl
  · exact congrArg Prod.fst (step_flags h ha hw)

/-- A session that has been greeted stays so. -/
theorem receive_greeted (f : ClientFrame) (h : s.greeted = true) :
    (s.receive f).greeted = true := by
  unfold receive
  cases hb : f.body with
  | none => exact h
  | some body =>
    simp only
    split
    · exact h
    · cases body <;> simp [dispatch, spawnUnary, spawnStream, answer, h]

/-- `Hello` greets the session. -/
theorem receive_hello {id : Nat} (hid : id ≠ 0) :
    (s.receive ⟨id, some .hello⟩).greeted = true := by
  simp [receive, hid, answer]

/-- A greeted session spawns the streaming call it reads, and answers nothing yet. -/
theorem receive_stream {id : Nat} (hid : id ≠ 0) (call : StreamCall) (h : s.greeted = true) :
    (s.receive ⟨id, some (.stream call)⟩).replies = [] := by
  simp [receive, hid, h, dispatch, spawnStream, replies]

/-! ### Frames and where they come from -/

/-- What is in the queue after a send was there, or is the frame. -/
theorem Sent.mem_queued {f g : ServerFrame} (h : Sent s f s₁) (hg : g ∈ s₁.queued) :
    g ∈ s.queued ∨ g = f := by
  rcases h.queued_eq with he | he
  · rw [he] at hg
    exact .inl hg
  · rw [he] at hg
    exact (List.mem_append.mp hg).imp_right List.mem_singleton.mp

/-- Queueing a reply makes no new frame. -/
theorem Sent.mem_flushed {f g : ServerFrame} {fs : List ServerFrame} {after : After}
    (h : Sent s f s₁) (hloop : s.loop = .replying (f :: fs) after) (hg : g ∈ s₁.queued ++ fs) :
    g ∈ s.queued ++ s.replies := by
  have hreplies : s.replies = f :: fs := by simp [replies, hloop]
  rw [hreplies]
  rcases List.mem_append.mp hg with hg | hg
  · rcases h.mem_queued hg with hg | rfl
    · exact List.mem_append_left _ hg
    · exact List.mem_append_right _ (.head fs)
  · exact List.mem_append_right _ (.tail f hg)

/-- What was queued stays so. -/
theorem Effect.queued_mono (h : Effect d s a s') : s.queued ⊆ s'.queued := by
  rcases h.history with he | ⟨e, he⟩
  · rw [queued_of_history he]
    exact fun _ hf => hf
  · unfold queued
    rw [he]
    cases e <;> simp

/-- The frames after the read loop was given `frames` to answer. -/
theorem mem_answered {f : ServerFrame} {P : Prop} (frames : List ServerFrame)
    (hf : f ∈ s'.queued ++ s'.replies) (hqueued : s'.queued = s.queued)
    (hreplies : s'.replies = frames) (hnew : f ∈ frames → P) : f ∈ s.queued ++ s.replies ∨ P := by
  rw [hqueued, hreplies] at hf
  rcases List.mem_append.mp hf with hf | hf
  · exact .inl (List.mem_append_left _ hf)
  · exact .inr (hnew hf)

/-- The frames after a task has sent one. -/
theorem mem_sent {f g : ServerFrame} {P : Prop} (hf : f ∈ s'.queued ++ s'.replies)
    (hsent : Sent s g s₁) (hqueued : s'.queued = s₁.queued) (hloop : s'.loop = s.loop)
    (hnew : f = g → P) : f ∈ s.queued ++ s.replies ∨ P := by
  have hreplies : s'.replies = s.replies := by unfold replies; rw [hloop]
  rw [hqueued, hreplies] at hf
  rcases List.mem_append.mp hf with hf | hf
  · exact (hsent.mem_queued hf).imp (List.mem_append_left _) hnew
  · exact .inl (List.mem_append_right _ hf)

/-- Where an `error` frame of a session comes from. -/
inductive ErrorFrom (s : Session) (a : Action) (s' : Session) (id : Nat) : Prop
  /-- A malformed frame is answered under id 0. -/
  | malformed (hid : id = 0)
  /-- The read loop answers a `StopCapture`. -/
  | call (hcalling : s.calling = some id)
  /-- A unary call fails. -/
  | unary (u : UnaryTask) (hu : u ∈ s.unaries) (hid : u.id = id)
  /-- The stream limit is hit. -/
  | limit (t : Nat) (e : Error) (hloop : s.loop = .refused id t e)
  /-- A frame is turned away as it is read. -/
  | read (f : ClientFrame) (hread : a = .receive f) (hid : f.id = id) (hreplies : s'.replies ≠ [])

/-- **Who gets an error.**  Every new `error` frame has one of these origins. -/
theorem Effect.error (h : Effect d s a s') {f : ServerFrame} {e : Error}
    (hf : f ∈ s'.queued ++ s'.replies) (he : f.body = .error e) :
    f ∈ s.queued ++ s.replies ∨ ErrorFrom s a s' f.id := by
  cases h with
  | answered g r greeted handled hloop hkind hstream =>
    refine mem_answered [⟨g.id, r⟩] hf (queued_received s g) rfl fun hnew => ?_
    rw [List.mem_singleton.mp hnew]
    exact .read g rfl rfl (by simp [replies])
  | called g handled unaries loop hloop hstream hunaries hnext =>
    refine mem_answered [] hf (queued_received s g) ?_ (by simp)
    rcases hnext with rfl | ⟨_, rfl⟩ | ⟨_, rfl⟩ <;> rfl
  | spawned g call handled hloop hbody =>
    exact mem_answered [] hf (queued_received s g) rfl (by simp)
  | hangup a frames hloop hids loop hnext ha =>
    rcases hnext with rfl | rfl
    · exact mem_answered [] hf rfl rfl (by simp)
    · exact mem_answered frames hf rfl rfl fun hnew => .malformed (hids f hnew).1
  | answeredAll after loop hloop hnext =>
    refine mem_answered [] hf rfl ?_ (by simp)
    rcases hnext with rfl | rfl <;> rfl
  | flushed g fs after s₁ hloop hsent => exact .inl (hsent.mem_flushed hloop hf)
  | cancelled id target t hloop hhit =>
    refine mem_answered _ hf rfl rfl fun hnew => ?_
    rcases List.mem_append.mp hnew with hnew | hnew <;> simp_all
  | cancelMissed id target hloop hmiss =>
    refine mem_answered _ hf rfl rfl fun hnew => ?_
    rcases List.mem_append.mp hnew with hnew | hnew <;> simp_all
  | inserted id t registry previous hloop hinsert =>
    exact mem_answered [] hf (queued_of_history (by simp)) (by simp [replies]) (by simp)
  | insertRefused id t e hloop hinsert => exact mem_answered [] hf rfl rfl (by simp)
  | refused id t e hloop =>
    refine mem_answered _ hf rfl rfl fun hnew => ?_
    rw [List.mem_singleton.mp hnew]
    exact .limit t e hloop
  | stopped id captureId t hloop hhit | stoppedDaemon id captureId hloop hhit =>
    refine mem_answered _ hf rfl rfl fun hnew => ?_
    rcases List.mem_cons.mp hnew with hnew | hnew <;> simp_all
  | stopMissed id captureId hloop hmiss => exact mem_answered [] hf rfl rfl (by simp)
  | stopFailed id captureId e hloop hmiss =>
    refine mem_answered _ hf rfl rfl fun hnew => ?_
    rw [List.mem_singleton.mp hnew]
    exact .call (by simp [Session.calling, hloop])
  | tornDown hloop =>
    exact mem_answered [] hf (queued_of_history (by simp)) (by simp [replies]) (by simp)
  | polled | yielded | bodyMoved | removed | forwarderMoved | wrote => exact .inl hf
  | bodySent t task task' b r input s₁ htask hstatus hpc hmove hsent =>
    refine mem_sent hf hsent rfl hsent.loop_eq fun hnew => ?_
    -- the items of a stream are no terminators
    have hitem := hmove.reply_ne r rfl
    simp_all
  | ended t task outcome input s₁ htask hstatus hpc hsent =>
    refine mem_sent hf hsent rfl hsent.loop_eq fun hnew => ?_
    simp_all
  | forwarderSent t task g g' act s₁ htask hg hfinished hbusy hsent =>
    refine mem_sent hf hsent rfl hsent.loop_eq fun hnew => ?_
    simp_all
  | unaryReplied u call error r s₁ hcall hkind hsent =>
    refine mem_sent hf hsent rfl hsent.loop_eq fun hnew => ?_
    exact .unary call (List.mem_of_getElem? hcall) (by rw [hnew])

/-- A registry that refuses an insert is full. -/
theorem Effect.refused_of (h : Effect d s a s') {id t : Nat} {e : Error}
    (hloop' : s'.loop = .refused id t e) :
    s.loop = .refused id t e ∨
      (a = .loop ∧ s.loop = .inserting id t ∧ s.registry.streams.keys.length = maxStreams) := by
  cases h
  case insertRefused hloop hinsert =>
    cases hloop'
    exact .inr ⟨rfl, hloop, StreamRegistry.full_of_insert hinsert⟩
  case called loop hloop hstream hunaries hnext =>
    rcases hnext with rfl | ⟨_, rfl⟩ | ⟨_, rfl⟩ <;> cases hloop'
  case hangup loop hnext ha => rcases hnext with rfl | rfl <;> cases hloop'
  case answeredAll loop hloop hnext => rcases hnext with rfl | rfl <;> cases hloop'
  case inserted => simp at hloop'
  case tornDown => simp at hloop'
  case bodySent hsent => exact .inl (hsent.loop_eq ▸ hloop')
  case ended hsent => exact .inl (hsent.loop_eq ▸ hloop')
  case forwarderSent hsent => exact .inl (hsent.loop_eq ▸ hloop')
  case unaryReplied hsent => exact .inl (hsent.loop_eq ▸ hloop')
  all_goals first | exact .inl hloop' | cases hloop'

/-! ### Before the greeting -/

/-- The session has no call to work on, and no frame for one. -/
structure Fresh (s : Session) : Prop where
  frames : ∀ f ∈ s.queued ++ s.replies, f.id = 0
  tasks : s.tasks = []
  unaries : s.unaries = []
  calling : s.calling = none
  spawning : s.spawning = none

/-- A new session is fresh. -/
theorem fresh_init : init.Fresh :=
  ⟨by simp [init, queued, replies], rfl, rfl, rfl, rfl⟩

/-- A session that goes on with the same work, and frames under id 0 at most. -/
theorem Fresh.of_frames (h : s.Fresh) (hframes : ∀ f ∈ s'.queued ++ s'.replies, f.id = 0)
    (htasks : s'.tasks = s.tasks) (hunaries : s'.unaries = s.unaries)
    (hcalling : s'.calling = none) (hspawning : s'.spawning = none) : s'.Fresh :=
  ⟨hframes, htasks.trans h.tasks, hunaries.trans h.unaries, hcalling, hspawning⟩

/-- Until a frame is read, a fresh session stays fresh. -/
theorem Effect.fresh (h : Effect d s a s') (ha : ∀ f, a ≠ .receive f) (hf : s.Fresh) :
    s'.Fresh := by
  -- A fresh session has no tasks, so none of them can do anything.
  have hnone : ∀ (t : Nat) task, s.tasks[t]? ≠ some task := by simp [hf.tasks]
  have hqueued : ∀ f ∈ s.queued, f.id = 0 := fun f hm => hf.frames f (List.mem_append_left _ hm)
  cases h with
  | answered f => exact absurd rfl (ha f)
  | called f => exact absurd rfl (ha f)
  | spawned f => exact absurd rfl (ha f)
  | hangup a frames hloop hids loop hnext ha =>
    rcases hnext with rfl | rfl
    · exact hf.of_frames (by simpa [replies, queued] using hqueued) rfl rfl rfl rfl
    · refine hf.of_frames (fun f hm => ?_) rfl rfl rfl rfl
      rcases List.mem_append.mp hm with hm | hm
      · exact hqueued f hm
      · exact (hids f hm).1
  | answeredAll after loop hloop hnext =>
    rcases hnext with rfl | rfl <;>
      exact hf.of_frames (by simpa [replies, queued] using hqueued) rfl rfl rfl rfl
  | flushed f fs after s₁ hloop hsent =>
    exact hf.of_frames (fun g hm => hf.frames g (hsent.mem_flushed hloop hm)) hsent.tasks_eq
      hsent.unaries_eq rfl rfl
  | cancelled id target t hloop hhit | stopped id target t hloop hhit =>
    exact absurd hf.calling (by simp [Session.calling, hloop])
  | cancelMissed id target hloop hmiss | stopMissed id target hloop hmiss
  | stoppedDaemon id target hloop hmiss =>
    exact absurd hf.calling (by simp [Session.calling, hloop])
  | inserted id t registry previous hloop hinsert =>
    exact absurd hf.spawning (by simp [Session.spawning, hloop])
  | insertRefused id t e hloop hinsert =>
    exact absurd hf.spawning (by simp [Session.spawning, hloop])
  | refused id t e hloop => exact absurd hf.spawning (by simp [Session.spawning, hloop])
  | stopFailed id captureId e hloop hmiss =>
    exact absurd hf.calling (by simp [Session.calling, hloop])
  | tornDown hloop =>
    refine hf.of_frames ?_ ?_ (by simp) (by simp [Session.calling]) (by simp [Session.spawning])
    · simpa [replies, queued] using hqueued
    · refine List.ext_getElem? fun u => ?_
      rw [tasks_abortEach]
      simp [hf.tasks]
  -- The steps of tasks and calls.
  | polled t task htask | yielded t task htask => exact absurd htask (hnone t task)
  | bodyMoved t task _ _ _ htask => exact absurd htask (hnone t task)
  | bodySent t task _ _ _ _ _ htask => exact absurd htask (hnone t task)
  | ended t task _ _ _ htask => exact absurd htask (hnone t task)
  | removed t task _ htask => exact absurd htask (hnone t task)
  | forwarderMoved t task _ _ _ htask => exact absurd htask (hnone t task)
  | forwarderSent t task _ _ _ _ htask => exact absurd htask (hnone t task)
  | unaryReplied u call error r s₁ hcall => simp [hf.unaries] at hcall
  | wrote a pending writerOpen ha =>
    exact ⟨hf.frames, hf.tasks, hf.unaries, hf.calling, hf.spawning⟩

end Netdiag.Ipc.Session
