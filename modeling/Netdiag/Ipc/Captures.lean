import Netdiag.Ipc.Call

namespace Netdiag.Ipc

/-!
# IPC — captures

`Daemon.captures` is shared by all connections and keyed by a daemon-wide counter, while
streams are filed per connection under ids their clients choose.

* `captures_are_running` — an entry of `captures` belongs to a capture that is running, in
  every run in which no future that owns an entry is dropped: `finish_capture` is the only
  code that removes one, and a dropped future never gets there.
* `stop_capture_exact` — when a `StopCapture` stops what it names, and nothing else: its
  one number is looked up in both spaces of ids.
-/

/-! ### Which task owns which entry -/

/-- The capture a body has entered into `captures` and not yet taken out. -/
def Body.capture : Body → Option Nat
  | .captureAnnounce _ captureId => some captureId
  | .captureLoop _ captureId _ _ => some captureId
  | .captureSelect _ captureId _ _ => some captureId
  | .capturePacket _ captureId _ _ => some captureId
  | .captureStats captureId _ _ => some captureId
  | .captureFinished captureId _ _ => some captureId
  | .captureFinish captureId _ => some captureId
  | _ => none

/-- The same, of a task. -/
def StreamTask.capturing (t : StreamTask) : Option Nat :=
  match t.pc with
  | .body b => b.capture
  | _ => none

/-- The `start_capture` future is there and owns the entry `captureId`. -/
def StreamTask.Owns (t : StreamTask) (captureId : Nat) : Prop :=
  t.Live ∧ t.capturing = some captureId

/-- What a body step can do to `captures`: nothing, enter its capture, or take it out. -/
inductive CaptureMove (ref : TaskRef) (t t' : StreamTask) (d d' : Daemon) : Prop
  | kept (hcaptures : d'.captures = d.captures) (hsame : t'.capturing = t.capturing)
  | entered (captureId : Nat) (hcaptures : d'.captures = d.captures.insert captureId ref)
      (howns : t'.capturing = some captureId) (hnone : t.capturing = none)
  | taken (captureId : Nat) (hcaptures : d'.captures = d.captures.erase captureId)
      (howned : t.capturing = some captureId)

/-- Every step of every body is a `CaptureMove`. -/
theorem bodyStep_captures {ref : TaskRef} {d : Daemon} {sendOk : Bool} {t : StreamTask}
    {b : Body} {input : Input} {res : BodyResult}
    (h : bodyStep ref d sendOk t b input = some res) (hpc : t.pc = .body b) :
    CaptureMove ref t res.task d res.daemon := by
  unfold bodyStep at h
  split at h
  -- the branches that do not step close at once; of the rest, one enters an entry
  -- (after `open`) and one takes it out (`finish_capture`)
  all_goals try (cases h; done)
  all_goals try split at h
  all_goals try split at h
  all_goals try (cases h; done)
  all_goals
    cases h
    first
    | exact .kept rfl (by simp [StreamTask.capturing, hpc, Body.capture])
    | exact .entered _ rfl rfl (by simp [StreamTask.capturing, hpc, Body.capture])
    | exact .taken _ rfl (by simp [StreamTask.capturing, hpc, Body.capture])

/-- An entry after a `CaptureMove` was there before, and the task still owns it if it did,
    or it is the one the task has just made. -/
theorem CaptureMove.lookup {ref x : TaskRef} {t t' : StreamTask} {d d' : Daemon}
    (h : CaptureMove ref t t' d d') {captureId : Nat}
    (hl : d'.captures.lookup captureId = some x) :
    (d.captures.lookup captureId = some x ∧
      (t.capturing = some captureId → t'.capturing = some captureId)) ∨
    (x = ref ∧ t'.capturing = some captureId) := by
  cases h with
  | kept hcaptures hsame => exact .inl ⟨hcaptures ▸ hl, fun h => hsame.trans h⟩
  | entered c hcaptures howns hnone =>
    rw [hcaptures] at hl
    by_cases hc : captureId = c
    · subst hc
      rw [AList.lookup_insert] at hl
      exact .inr ⟨(Option.some.inj hl).symm, howns⟩
    · rw [AList.lookup_insert_ne hc] at hl
      -- a body enters its capture once, so it owned nothing before
      exact .inl ⟨hl, fun h => by rw [hnone] at h; cases h⟩
  | taken c hcaptures howned =>
    rw [hcaptures] at hl
    by_cases hc : captureId = c
    · rw [hc, AList.lookup_erase] at hl
      cases hl
    · rw [AList.lookup_erase_ne hc] at hl
      refine .inl ⟨hl, fun h => ?_⟩
      rw [howned] at h
      exact absurd (Option.some.inj h).symm hc

namespace Session

variable {k : Nat} {d d' : Daemon} {s s' : Session} {a : Action}

/-! ### Steps of other kinds -/

/-- The read loop touches the daemon only to look a capture up, and stops it there. -/
theorem loopStep_daemon (h : s.loopStep d = some (d', s')) :
    d' = d ∨ ∃ captureId, s.forcing = some captureId ∧ d' = (d.stopCapture captureId).1 := by
  cases hl : s.loop with
  | stoppingDaemon id captureId =>
    -- the only await of the loop that sees the daemon
    right
    refine ⟨captureId, by simp [forcing, hl], ?_⟩
    simp only [loopStep, hl] at h
    split at h
    · rename_i d₁ hstop; cases h; rw [hstop]
    · rename_i d₁ hstop; cases h; rw [hstop]
  | replying frames after =>
    left
    cases frames with
    | nil => cases after <;> simp only [loopStep, hl] at h <;> cases h <;> rfl
    | cons f fs =>
      simp only [loopStep, hl] at h
      obtain ⟨s₁, -, he⟩ := Option.map_eq_some_iff.mp h
      cases he
      rfl
  | inserting id t =>
    left
    simp only [loopStep, hl] at h
    split at h <;> cases h <;> rfl
  | cancelling id target =>
    left
    simp only [loopStep, hl, StreamRegistry.cancel] at h
    split at h <;> cases h <;> rfl
  | stopping id captureId =>
    left
    simp only [loopStep, hl, StreamRegistry.cancel] at h
    split at h <;> cases h <;> rfl
  | refused id t e => left; simp only [loopStep, hl] at h; cases h; rfl
  | teardown => left; simp only [loopStep, hl] at h; cases h; rfl
  | reading => simp [loopStep, hl] at h
  | closed => simp [loopStep, hl] at h

/-- Raising a flag does not change which captures are registered. -/
theorem captures_stopCapture (d : Daemon) (captureId : Nat) :
    (d.stopCapture captureId).1.captures = d.captures := by
  unfold Daemon.stopCapture
  split <;> rfl

/-- Only stream tasks touch `captures`. -/
theorem step_captures (h : step k d s a = some (d', s')) (ha : ∀ t input, a ≠ .task t input) :
    d'.captures = d.captures := by
  cases a with
  | task t input => exact absurd rfl (ha t input)
  -- Of the loop's steps only `StopCapture` raises a flag.
  | loop =>
    rcases loopStep_daemon h with rfl | ⟨captureId, -, rfl⟩
    · rfl
    · exact captures_stopCapture d captureId
  | forwarder t act => obtain ⟨s₁, -, he⟩ := Option.map_eq_some_iff.mp h; cases he; rfl
  | unary u error => obtain ⟨s₁, -, he⟩ := Option.map_eq_some_iff.mp h; cases he; rfl
  | poll t =>
    simp only [step] at h
    split at h
    · split at h
      · cases h; rfl
      · cases h
    · cases h
  | yield t =>
    simp only [step] at h
    split at h
    · split at h
      · cases h; rfl
      · cases h
    · cases h
  | receive f => simp only [step] at h; split at h <;> cases h; rfl
  | malformed detail => simp only [step] at h; split at h <;> cases h; rfl
  | disconnect => simp only [step] at h; split at h <;> cases h; rfl
  | writerTake => simp only [step] at h; split at h <;> cases h; rfl
  | writerClose => cases h; rfl

/-- The task the runtime takes up or parks in this step. -/
def Action.resumed : Action → Option Nat
  | .poll t => some t
  | .yield t => some t
  | _ => none

/-- A task keeps its await through the steps of others, and its life unless it is aborted
    and the runtime comes by. -/
structure Stays (a : Action) (t : Nat) (task task' : StreamTask) : Prop where
  pc_eq : task'.pc = task.pc
  live : task.Live → task'.Live ∨ (a.resumed = some t ∧ task.abortRequested = true)

/-- A task that nothing happened to. -/
theorem Stays.refl (a : Action) (t : Nat) (task : StreamTask) : Stays a t task task :=
  ⟨rfl, .inl⟩

/-- A task that is to be aborted stays what it is until it gets its turn. -/
theorem stays_abort (a : Action) (t : Nat) (task : StreamTask) : Stays a t task task.abort := by
  unfold StreamTask.abort
  split
  · exact ⟨rfl, .inl⟩
  · exact .refl a t task

/-- A task whose turn it is. -/
theorem stays_poll (t : Nat) (task : StreamTask) : Stays (.poll t) t task task.poll := by
  unfold StreamTask.poll
  split
  · rename_i ha; exact ⟨rfl, fun _ => .inr ⟨rfl, ha⟩⟩
  · exact ⟨rfl, fun _ => .inl (.inr rfl)⟩

/-- A task that waits again. -/
theorem stays_yield (t : Nat) (task : StreamTask) : Stays (.yield t) t task task.yield := by
  unfold StreamTask.yield
  split
  · rename_i ha; exact ⟨rfl, fun _ => .inr ⟨rfl, ha⟩⟩
  · exact ⟨rfl, fun _ => .inl (.inl rfl)⟩

/-- The task table after a step that is none of a stream task. -/
def StaysIn (a : Action) (s s' : Session) : Prop :=
  ∀ (t : Nat) task, s.tasks[t]? = some task → ∃ task', s'.tasks[t]? = some task' ∧
    Stays a t task task'

/-- Where no task changed, all stay. -/
theorem StaysIn.of_eq (h : s'.tasks = s.tasks) : StaysIn a s s' := by
  intro t task ht
  exact ⟨task, h ▸ ht, .refl a t task⟩

/-- Where one task changed, the others stay. -/
theorem StaysIn.of_set {u : Nat} {x x' : StreamTask} (hx : s.tasks[u]? = some x)
    (h : s'.tasks = s.tasks.set u x') (hstays : Stays a u x x') : StaysIn a s s' := by
  intro t task ht
  by_cases hut : u = t
  · subst hut
    rw [hx] at ht
    cases ht
    have hlt := (List.getElem?_eq_some_iff.mp hx).1
    exact ⟨x', by rw [h, List.getElem?_set_self hlt], hstays⟩
  · exact ⟨task, by rw [h, List.getElem?_set_ne hut, ht], .refl a t task⟩

/-- Where some tasks are aborted, all stay until they get their turn. -/
theorem StaysIn.of_abortEach (handles : List Nat)
    (h : s'.tasks = (s.abortEach handles).tasks) : StaysIn a s s' := by
  intro t task ht
  rw [h, tasks_abortEach, ht]
  split
  · exact ⟨task.abort, rfl, stays_abort a t task⟩
  · exact ⟨task, rfl, .refl a t task⟩

/-- Only its own steps move a task to another await. -/
theorem Effect.staysIn (h : Effect d s a s') (ha : ∀ t input, a ≠ .task t input) :
    StaysIn a s s' := by
  cases h
  case spawned f call handled hloop hbody =>
    intro t task ht
    refine ⟨task, ?_, .refl _ t task⟩
    exact Runs.getElem?_push ht
  case flushed hsent => exact .of_eq hsent.tasks_eq
  case unaryReplied hsent => exact .of_eq hsent.tasks_eq
  case cancelled id target t hloop hhit => exact .of_abortEach [t] rfl
  case refused id t e hloop => exact .of_abortEach [t] rfl
  case stopped id captureId t hloop hhit => exact .of_abortEach [t] rfl
  case inserted id t registry previous hloop hinsert =>
    refine .of_abortEach previous.toList (List.ext_getElem? fun u => ?_)
    rw [tasks_abortEach, tasks_abortEach]
  case tornDown hloop =>
    refine .of_abortEach s.registry.handles (List.ext_getElem? fun u => ?_)
    rw [tasks_abortEach, tasks_abortEach]
  case polled t task htask hstatus => exact .of_set htask rfl (stays_poll t task)
  case yielded t task htask hstatus => exact .of_set htask rfl (stays_yield t task)
  case forwarderMoved t task f f' act htask hf hfinished hquiet =>
    exact .of_set htask rfl ⟨rfl, .inl⟩
  case forwarderSent t task f f' act s₁ htask hf hfinished hbusy hsent =>
    exact .of_set htask hsent.tasks_setTask ⟨rfl, .inl⟩
  -- the task's own steps are excluded
  case bodyMoved t _ _ _ input _ _ _ _ => exact absurd rfl (ha t input)
  case bodySent t _ _ _ _ input _ _ _ _ _ _ => exact absurd rfl (ha t input)
  case ended t _ _ input _ _ _ _ _ => exact absurd rfl (ha t input)
  case removed t _ input _ _ _ => exact absurd rfl (ha t input)
  all_goals exact .of_eq rfl

/-! ### Steps of a stream task -/

/-- A step of task `t` leaves the other tasks alone and is a `CaptureMove` of its own, or
    finds it past its body. -/
theorem runTask_captures {t : Nat} {input : Input}
    (h : s.runTask k d t input = some (d', s')) :
    (∀ u, u ≠ t → s'.tasks[u]? = s.tasks[u]?) ∧
    ∃ task task', s.tasks[t]? = some task ∧ s'.tasks[t]? = some task' ∧
      ((task'.Live ∧ CaptureMove ⟨k, t⟩ task task' d d') ∨
        (task.capturing = none ∧ d'.captures = d.captures)) := by
  -- Replacing one task leaves the others.
  have hset : ∀ (s₁ : Session) (task x : StreamTask), s₁.tasks = s.tasks →
      s.tasks[t]? = some task →
      (∀ u, u ≠ t → (s₁.setTask t x).tasks[u]? = s.tasks[u]?) ∧
      (s₁.setTask t x).tasks[t]? = some x := by
    intro s₁ task x htasks htask
    have hlt := (List.getElem?_eq_some_iff.mp htask).1
    simp only [setTask, htasks]
    exact ⟨fun u hu => List.getElem?_set_ne (Ne.symm hu), List.getElem?_set_self hlt⟩
  obtain ⟨task, htask, hstatus, hstep⟩ := runTask_cases h
  cases hstep with
  | moved b d₁ task' hpc hbody =>
    have hlive : task'.Live := .inr ((bodyStep_move hbody hpc).status_eq.trans hstatus)
    obtain ⟨hothers, hself⟩ := hset s task task' rfl htask
    exact ⟨hothers, task, task', htask, hself, .inl ⟨hlive, bodyStep_captures hbody hpc⟩⟩
  | sent b d₁ task' r s₁ hpc hbody hsend =>
    have hlive : task'.Live := .inr ((bodyStep_move hbody hpc).status_eq.trans hstatus)
    obtain ⟨hothers, hself⟩ := hset s₁ task task' (send_sent hsend).tasks_eq htask
    exact ⟨hothers, task, task', htask, hself, .inl ⟨hlive, bodyStep_captures hbody hpc⟩⟩
  | ended outcome s₁ hpc hsend =>
    obtain ⟨hothers, hself⟩ := hset s₁ task { task with pc := .removing }
      (send_sent hsend).tasks_eq htask
    exact ⟨hothers, task, _, htask, hself, .inr ⟨by simp [StreamTask.capturing, hpc], rfl⟩⟩
  | removed hpc =>
    obtain ⟨hothers, hself⟩ := hset { s with registry := s.registry.remove task.id } task
      { task with status := .finished } rfl htask
    exact ⟨hothers, task, _, htask, hself, .inr ⟨by simp [StreamTask.capturing, hpc], rfl⟩⟩

end Session

/-! ### Entries belong to running captures -/

namespace Server

variable {w w' : Server}

/-- No step drops a future that has an entry in `captures`. -/
def DropsNoCapture (w : Server) (ka : Nat × Session.Action) : Prop :=
  ∀ t ∈ ka.2.resumed, ∀ task ∈ (w.comp ka.1).tasks[t]?, task.abortRequested = true →
    ∀ e ∈ w.shared.captures.entries, e.2 ≠ ⟨ka.1, t⟩

instance (w : Server) (ka : Nat × Session.Action) : Decidable (DropsNoCapture w ka) :=
  inferInstanceAs (Decidable (∀ t ∈ _, ∀ task ∈ _, _ → ∀ e ∈ _, _))

/-- The task the reference names owns the entry. -/
def Owned (w : Server) (captureId : Nat) (ref : TaskRef) : Prop :=
  ∃ task, (w.comp ref.conn).tasks[ref.task]? = some task ∧ task.Owns captureId

/-- Every entry of `captures` is owned by the task it names. -/
def CapturesOwned (w : Server) : Prop :=
  ∀ captureId ref, w.shared.captures.lookup captureId = some ref → w.Owned captureId ref

/-- Entries survive the steps that do not touch their owner. -/
theorem Owned.of_eq {captureId : Nat} {ref : TaskRef} (h : w.Owned captureId ref)
    (heq : (w'.comp ref.conn).tasks[ref.task]? = (w.comp ref.conn).tasks[ref.task]?) :
    w'.Owned captureId ref := by
  obtain ⟨task, htask, howns⟩ := h
  exact ⟨task, heq.trans htask, howns⟩

/-- `CapturesOwned` survives every step that drops no owner. -/
theorem CapturesOwned.step {k : Nat} {a : Session.Action} (hinv : w.CapturesOwned)
    (hok : DropsNoCapture w (k, a)) (hs : Server.step w (k, a) = some w') :
    w'.CapturesOwned := by
  obtain ⟨hmoved, hrest⟩ := Runs.World.move_eq_some hs
  intro captureId ref hl
  by_cases htask : ∃ t input, a = .task t input
  · obtain ⟨t, input, rfl⟩ := htask
    obtain ⟨hothers, task, task', ht, ht', hmove⟩ := Session.runTask_captures hmoved
    -- the entries of all other tasks are where they were
    have hother : ref ≠ ⟨k, t⟩ → w.Owned captureId ref → w'.Owned captureId ref := by
      intro hne howned
      refine howned.of_eq ?_
      by_cases hk : ref.conn = k
      · obtain ⟨conn, u⟩ := ref
        subst hk
        exact hothers u fun hu => hne (hu ▸ rfl)
      · rw [hrest ref.conn hk]
    -- and so is its own, unless it has just taken it out
    have hself : w.Owned captureId ⟨k, t⟩ → task.capturing = some captureId := by
      rintro ⟨x, hx, -, hcap⟩
      have hx' : (w.comp k).tasks[t]? = some x := hx
      rw [ht] at hx'
      cases hx'
      exact hcap
    have hown : task'.Live → task'.capturing = some captureId → w'.Owned captureId ⟨k, t⟩ :=
      fun hlive hcap => ⟨task', ht', hlive, hcap⟩
    rcases hmove with ⟨hlive, hmove⟩ | ⟨hnone, hkept⟩
    · rcases hmove.lookup hl with ⟨hold, hkeep⟩ | ⟨rfl, hcap⟩
      · by_cases href : ref = ⟨k, t⟩
        · subst href
          exact hown hlive (hkeep (hself (hinv captureId _ hold)))
        · exact hother href (hinv captureId ref hold)
      · exact hown hlive hcap
    · rw [hkept] at hl
      refine hother ?_ (hinv captureId ref hl)
      rintro rfl
      rw [hself (hinv captureId _ hl)] at hnone
      cases hnone
  · have ha : ∀ t input, a ≠ .task t input := fun t input h => htask ⟨t, input, h⟩
    rw [Session.step_captures hmoved ha] at hl
    obtain ⟨task, ht, hlive, hcap⟩ := hinv captureId ref hl
    by_cases hk : ref.conn = k
    · subst hk
      obtain ⟨task', ht', hstays⟩ := (Session.step_effect hmoved).staysIn ha ref.task task ht
      refine ⟨task', ht', ?_, ?_⟩
      -- an owner that goes is an aborted one being resumed: `DropsNoCapture` excludes it
      · refine (hstays.live hlive).resolve_right fun ⟨hresumed, habort⟩ => ?_
        exact hok ref.task hresumed task ht habort ⟨captureId, ref⟩ (AList.mem_lookup_iff.mp hl) rfl
      · unfold StreamTask.capturing at hcap ⊢
        rw [hstays.pc_eq]
        exact hcap
    · exact ⟨task, by rw [hrest ref.conn hk]; exact ht, hlive, hcap⟩

/-- **Captures.**  In every run in which no future with an entry in `captures` is dropped,
    an entry belongs to a `start_capture` future that is still running, and that has made
    the entry and not yet taken it out. -/
theorem captures_are_running (hrun : Run DropsNoCapture w) (captureId : Nat) (ref : TaskRef)
    (hentry : w.shared.captures.lookup captureId = some ref) :
    ∃ task, (w.comp ref.conn).tasks[ref.task]? = some task ∧ task.Live ∧
      task.capturing = some captureId := by
  have hinv : w.CapturesOwned := by
    refine Runs.Steps.invariant hrun (by simp [CapturesOwned, Server.init, Daemon.new]) ?_
    rintro v ⟨k, a⟩ v' hv hok hs
    exact hv.step hok hs
  exact hinv captureId ref hentry

/-- The actions that start a capture as stream `t` of connection `k` and let it run until it
    waits for packets. -/
def runningCapture (k t id : Nat) : List (Nat × Session.Action) :=
  [(k, .receive ⟨id, some (.stream (.startCapture ⟨0, 0⟩))⟩), (k, .loop), (k, .poll t),
    (k, .task t (.opened none)), (k, .task t .go), (k, .task t .go), (k, .task t .go),
    (k, .yield t)]

/-- A capture waits for packets; its entry is its own. -/
theorem captures_are_running_capture :
    ∃ w, Run DropsNoCapture w ∧ w.shared.captures.lookup 1 = some ⟨0, 0⟩ ∧
      ∃ task, (w.comp 0).tasks[0]? = some task ∧ task.Live ∧ task.capturing = some 1 := by
  obtain ⟨w, hrun, hentry⟩ := exists_run DropsNoCapture (greeting 0 ++ runningCapture 0 0 2)
    (fun w : Server => w.shared.captures.lookup 1 = some ⟨0, 0⟩)
    (by decide +kernel)
  exact ⟨w, hrun, hentry, captures_are_running hrun 1 ⟨0, 0⟩ hentry⟩

/-- A capture is cancelled while it waits for packets: its future is dropped there, and
    its entry stays. -/
theorem cancelled_capture_leaks_its_entry :
    ∃ w, Reachable w ∧ w.shared.captures.lookup 1 = some ⟨0, 0⟩ ∧
      (w.comp 0).tasks.map (·.status) = [.dropped] := by
  obtain ⟨w, hrun, h⟩ := exists_run (fun _ _ => True)
    (List.flatten [greeting 0, runningCapture 0 0 2,
      [(0, .receive ⟨3, some (.cancel 2)⟩), (0, .loop), (0, .loop), (0, .loop), (0, .loop),
        (0, .poll 0)]])
    (fun w : Server => w.shared.captures.lookup 1 = some ⟨0, 0⟩ ∧
      (w.comp 0).tasks.map (·.status) = [.dropped])
    (by decide +kernel)
  exact ⟨w, hrun, h⟩

/-! ### What a `StopCapture` stops -/

/-- The two ways a stream is told to stop: its task is aborted (`registry.cancel`), or the
    stop flag of its capture is raised (`daemon.stop_capture`). -/
inductive Signal
  | abort
  | flag
  deriving DecidableEq, Repr

/-- The stream has been given the signal. -/
def Told (w : Server) : Signal → TaskRef → Prop
  | .abort, ref => ∃ task ∈ (w.comp ref.conn).tasks[ref.task]?, task.abortRequested = true
  | .flag, ref => ref ∈ w.shared.stopFlags

/-- The stream is there and not over, whatever it has been told. -/
def Lives (w : Server) (ref : TaskRef) : Prop :=
  ∃ task ∈ (w.comp ref.conn).tasks[ref.task]?, task.Live

instance (w : Server) (signal : Signal) (ref : TaskRef) : Decidable (w.Told signal ref) :=
  match signal with
  | .abort => inferInstanceAs (Decidable (∃ task ∈ _, _))
  | .flag => inferInstanceAs (Decidable (_ ∈ _))

instance (w : Server) (ref : TaskRef) : Decidable (w.Lives ref) :=
  inferInstanceAs (Decidable (∃ task ∈ _, _))

/-- From `w` to `w'` the stream is stopped: it is not over, and is given a signal that it
    had not been given.  A capture whose flag is up lives on until it looks, so aborting it
    stops it too. -/
def Stops (w w' : Server) (ref : TaskRef) : Prop :=
  w.Lives ref ∧ ∃ signal, ¬ w.Told signal ref ∧ w'.Told signal ref

/-- Task `t` of connection `k` is a capture that its client knows as `captureId`; `id` is
    the id of the `StartCapture`. -/
def Announced (w : Server) (k captureId t id : Nat) : Prop :=
  ∃ task, (w.comp k).tasks[t]? = some task ∧ task.id = id ∧ task.captureId = some captureId ∧
    ServerFrame.mk id (.captureStarted captureId) ∈ (w.comp k).queued

/-- From `w` to `w'` nothing is stopped but the capture announced on connection `k` as
    `captureId`, and every `StreamEnd` the read loop has to queue carries its request id. -/
def StopsOnly (w w' : Server) (k captureId : Nat) : Prop :=
  (∀ ref, w.Stops w' ref → ref.conn = k ∧ ∃ id, w.Announced k captureId ref.task id) ∧
  ∀ f ∈ (w'.comp k).replies, f.body.isStreamEnd = true → ∃ t, w.Announced k captureId t f.id

/-- What the `StopCapture` that connection `k` works on finds under its number, and what it
    does with it: a stream of the connection to abort, or else a capture of the daemon to
    raise the flag of. -/
def stopTarget (w : Server) (k : Nat) : Option (Signal × TaskRef) :=
  match (w.comp k).loop with
  | .stopping _ captureId =>
      ((w.comp k).registry.lookup captureId).map (fun t => (.abort, ⟨k, t⟩))
  | .stoppingDaemon _ captureId =>
      (w.shared.captures.lookup captureId).map (fun ref => (.flag, ref))
  | _ => none

/-- What the `StopCapture` finds is a capture of this connection announced under that
    number, and its request id is that number too.  (A target that is over, or has been
    given this very signal before, may be anything.) -/
def Meant (w : Server) (k captureId : Nat) : Prop :=
  ∀ found ∈ w.stopTarget k, (∃ t, w.Announced k captureId t captureId) ∧
    (w.Lives found.2 → ¬ w.Told found.1 found.2 →
      found.2.conn = k ∧ ∃ id, w.Announced k captureId found.2.task id)

/-- A hit: of the streams that live, exactly the target gets a new signal, and a `StreamEnd`
    with the number is due. -/
theorem stopsOnly_of_hit {k captureId : Nat} (id : Nat) (signal : Signal) (target : TaskRef)
    (htarget : w.stopTarget k = some (signal, target))
    (htold : ∀ sig ref, w.Lives ref →
      (w'.Told sig ref ↔ w.Told sig ref ∨ (sig = signal ∧ ref = target)))
    (hreplies : (w'.comp k).replies = Session.stopReplies id captureId) :
    w.StopsOnly w' k captureId ↔ w.Meant k captureId := by
  constructor
  · intro h found hfound
    rw [htarget] at hfound
    cases hfound
    refine ⟨h.2 ⟨captureId, .streamEnd (.done "stopped by the client" 0)⟩ ?_ rfl,
      fun hlives hnew => ?_⟩
    · rw [hreplies]
      simp [Session.stopReplies]
    · -- the target itself is stopped by this step
      exact h.1 target ⟨hlives, signal, hnew, (htold signal target hlives).mpr (.inr ⟨rfl, rfl⟩)⟩
  · intro h
    obtain ⟨hann, hmine⟩ := h (signal, target) htarget
    refine ⟨?_, fun f hf hend => ?_⟩
    · rintro ref ⟨hlives, sig, hnew, htold'⟩
      -- a new signal is the one sent, and went to the target
      obtain ⟨rfl, rfl⟩ := ((htold sig ref hlives).mp htold').resolve_left hnew
      exact hmine hlives hnew
    · rw [hreplies] at hf
      simp only [Session.stopReplies, List.mem_cons, List.not_mem_nil, or_false] at hf
      rcases hf with rfl | rfl
      · exact hann
      · cases hend

/-- A miss: no signal is sent and no `StreamEnd` is due. -/
theorem stopsOnly_of_miss {k captureId : Nat} (htarget : w.stopTarget k = none)
    (htold : ∀ sig ref, w'.Told sig ref ↔ w.Told sig ref)
    (hreplies : ∀ f ∈ (w'.comp k).replies, f.body.isStreamEnd = false) :
    w.StopsOnly w' k captureId ↔ w.Meant k captureId := by
  refine iff_of_true ⟨?_, fun f hf hend => ?_⟩ ?_
  · rintro ref ⟨-, sig, hnew, htold'⟩
    exact absurd ((htold sig ref).mp htold') hnew
  · rw [hreplies f hf] at hend
    cases hend
  · intro found hfound
    rw [htarget] at hfound
    cases hfound

/-- Aborting one task of one connection gives that signal to it alone. -/
theorem told_of_abort {k t : Nat} (hshared : w'.shared = w.shared)
    (hothers : ∀ j, j ≠ k → w'.comp j = w.comp j)
    (htasks : (w'.comp k).tasks = ((w.comp k).abort t).tasks) (sig : Signal) (ref : TaskRef)
    (hlives : w.Lives ref) :
    w'.Told sig ref ↔ w.Told sig ref ∨ (sig = .abort ∧ ref = ⟨k, t⟩) := by
  cases sig with
  | flag => simp [Told, hshared]
  | abort =>
    obtain ⟨task, htask, hlive⟩ := hlives
    by_cases href : ref = ⟨k, t⟩
    · subst href
      have htask' : (w'.comp k).tasks[t]? = some task.abort := by
        rw [htasks, Session.tasks_abort, if_pos rfl,
          show (w.comp k).tasks[t]? = some task from htask]
        rfl
      -- the target is live, so the abort is recorded
      refine iff_of_true ⟨task.abort, htask', ?_⟩ (.inr ⟨rfl, rfl⟩)
      simp [StreamTask.abort, hlive]
    · have hsame : (w'.comp ref.conn).tasks[ref.task]? = (w.comp ref.conn).tasks[ref.task]? := by
        by_cases hk : ref.conn = k
        · obtain ⟨conn, u⟩ := ref
          subst hk
          rw [htasks, Session.tasks_abort, if_neg]
          rintro rfl
          exact href rfl
        · rw [hothers ref.conn hk]
      simp only [Told, hsame, href, and_false, or_false]

/-- A step that moves no task aborts none; the flags are those of the daemon after it. -/
theorem told_of_tasks {k : Nat} (hothers : ∀ j, j ≠ k → w'.comp j = w.comp j)
    (htasks : (w'.comp k).tasks = (w.comp k).tasks) (sig : Signal) (ref : TaskRef) :
    w'.Told sig ref ↔
      (w.Told sig ref ∧ sig = .abort) ∨ (sig = .flag ∧ ref ∈ w'.shared.stopFlags) := by
  have hsame : (w'.comp ref.conn).tasks = (w.comp ref.conn).tasks := by
    by_cases hk : ref.conn = k
    · rw [hk, htasks]
    · rw [hothers ref.conn hk]
  cases sig with
  | abort => simp [Told, hsame]
  | flag => simp [Told]

/-- A step that moves no task and raises no flag sends no signal. -/
theorem told_of_quiet {k : Nat} (hothers : ∀ j, j ≠ k → w'.comp j = w.comp j)
    (htasks : (w'.comp k).tasks = (w.comp k).tasks) (hshared : w'.shared = w.shared)
    (sig : Signal) (ref : TaskRef) : w'.Told sig ref ↔ w.Told sig ref := by
  rw [told_of_tasks hothers htasks, hshared]
  cases sig <;> simp [Told]

/-- **StopCapture.**  In every state, a step of a `StopCapture` stops only the capture
    announced on its connection under its number, and ends the stream with its request id,
    exactly when what it finds under that number is meant. -/
theorem stop_capture_exact {k id captureId : Nat}
    (hloop : (w.comp k).loop = .stopping id captureId ∨
      (w.comp k).loop = .stoppingDaemon id captureId)
    (hstep : Server.step w (k, .loop) = some w') :
    w.StopsOnly w' k captureId ↔ w.Meant k captureId := by
  obtain ⟨hmoved, hothers⟩ := Runs.World.move_eq_some hstep
  have hloopStep : (w.comp k).loopStep w.shared = some (w'.shared, w'.comp k) := hmoved
  rcases hloop with hl | hl
  -- `registry.cancel(capture_id)`: the number is taken for a request id
  · simp only [Session.loopStep, hl, StreamRegistry.cancel] at hloopStep
    cases ht : (w.comp k).registry.lookup captureId with
    | some t =>
      rw [ht] at hloopStep
      obtain ⟨hshared, hcomp⟩ := Prod.mk.inj (Option.some.inj hloopStep)
      refine stopsOnly_of_hit id .abort ⟨k, t⟩ (by simp [stopTarget, hl, ht])
        (told_of_abort hshared.symm hothers (by rw [← hcomp]; rfl)) ?_
      rw [← hcomp]
      rfl
    | none =>
      rw [ht] at hloopStep
      obtain ⟨hshared, hcomp⟩ := Prod.mk.inj (Option.some.inj hloopStep)
      refine stopsOnly_of_miss (by simp [stopTarget, hl, ht])
        (told_of_quiet hothers (by rw [← hcomp]) hshared.symm) ?_
      rw [← hcomp]
      simp [Session.replies]
  -- `daemon.stop_capture(capture_id)`: the captures of all connections
  · simp only [Session.loopStep, hl, Daemon.stopCapture] at hloopStep
    cases hc : w.shared.captures.lookup captureId with
    | some flag =>
      rw [hc] at hloopStep
      obtain ⟨hshared, hcomp⟩ := Prod.mk.inj (Option.some.inj hloopStep)
      refine stopsOnly_of_hit id .flag flag (by simp [stopTarget, hl, hc]) (fun sig ref _ => ?_) ?_
      · -- the flags after it are those before and the one just raised
        rw [told_of_tasks hothers (by rw [← hcomp]; rfl), ← hshared, List.mem_cons]
        cases sig <;> simp [Told, or_comm]
      · rw [← hcomp]
        rfl
    | none =>
      rw [hc] at hloopStep
      obtain ⟨hshared, hcomp⟩ := Prod.mk.inj (Option.some.inj hloopStep)
      refine stopsOnly_of_miss (by simp [stopTarget, hl, hc])
        (told_of_quiet hothers (by rw [← hcomp]; rfl) hshared.symm) ?_
      rw [← hcomp]
      simp [Session.replies, Session.answer]

/-- The client's request id happens to be the capture id: the `StopCapture` is meant. -/
theorem stop_capture_exact_same_id :
    ∃ w w', Reachable w ∧ (w.comp 0).loop = .stopping 3 1 ∧
      Server.step w (0, .loop) = some w' ∧ w.Stops w' ⟨0, 0⟩ ∧ w.StopsOnly w' 0 1 := by
  obtain ⟨w, hrun, hloop, htarget, htask, hsent, ⟨hlives, hnew⟩, hstep⟩ :=
    exists_run (fun _ _ => True)
    (List.flatten [greeting 0, runningCapture 0 0 1, [(0, .receive ⟨3, some (.stopCapture 1)⟩)]])
    (fun w : Server => (w.comp 0).loop = .stopping 3 1 ∧
      w.stopTarget 0 = some (.abort, ⟨0, 0⟩) ∧
      (w.comp 0).tasks[0]?.map (fun t => (t.id, t.captureId)) = some (1, some 1) ∧
      ServerFrame.mk 1 (.captureStarted 1) ∈ (w.comp 0).queued ∧
      (w.Lives ⟨0, 0⟩ ∧ ¬ w.Told .abort ⟨0, 0⟩) ∧
      (Server.step w (0, .loop)).any (fun w' => decide (w'.Told .abort ⟨0, 0⟩)) = true)
    (by decide +kernel)
  obtain ⟨task, ht, hids⟩ := Option.map_eq_some_iff.mp htask
  obtain ⟨hid, hcapture⟩ := Prod.mk.inj hids
  obtain ⟨w', hw', htold⟩ := (Option.any_eq_true _ _).mp hstep
  have hann : w.Announced 0 1 0 1 := ⟨task, ht, hid, hcapture, hsent⟩
  refine ⟨w, w', hrun, hloop, hw', ⟨hlives, .abort, hnew, of_decide_eq_true htold⟩, ?_⟩
  refine (stop_capture_exact (.inl hloop) hw').mpr fun found hfound => ?_
  rw [htarget] at hfound
  cases hfound
  exact ⟨⟨0, hann⟩, fun _ _ => ⟨rfl, 1, hann⟩⟩

/-- A live stream that gets a new signal and is no capture announced as `captureId` is
    wrongly stopped. -/
theorem not_stopsOnly_of_told {k captureId : Nat} {signal : Signal} {ref : TaskRef}
    (hlives : w.Lives ref) (hnew : ¬ w.Told signal ref) (htold : w'.Told signal ref)
    (hother : ref.conn = k →
      (w.comp k).tasks[ref.task]?.map (·.captureId) ≠ some (some captureId)) :
    ¬ w.StopsOnly w' k captureId := by
  intro h
  obtain ⟨hconn, id, task, ht, -, hcapture, -⟩ := h.1 ref ⟨hlives, signal, hnew, htold⟩
  apply hother hconn
  rw [ht, Option.map_some, hcapture]

/-- Three `StopCapture`s for capture 1.  Where no capture was ever started, a watch with
    request id 1 is aborted.  From a second connection, the capture of the first is
    stopped.  And where capture 1 is over and its request id 1 names capture 2 by now, the
    latter is aborted (its flag is up, but it has not looked yet). -/
theorem stop_capture_stops_another_stream :
    (∃ w w', Reachable w ∧ (w.comp 0).loop = .stopping 3 1 ∧
      Server.step w (0, .loop) = some w' ∧ ¬ w.StopsOnly w' 0 1) ∧
    (∃ w w', Reachable w ∧ (w.comp 1).loop = .stoppingDaemon 3 1 ∧
      Server.step w (1, .loop) = some w' ∧ ¬ w.StopsOnly w' 1 1) ∧
    ∃ w w', Reachable w ∧ (w.comp 0).loop = .stopping 4 1 ∧
      (∃ t, w.Announced 0 1 t 1) ∧ Server.step w (0, .loop) = some w' ∧
      ¬ w.StopsOnly w' 0 1 := by
  refine ⟨?_, ?_, ?_⟩
  · obtain ⟨w, hrun, hloop, hlives, hnew, hnone, hstep⟩ := exists_run (fun _ _ => True)
      (List.flatten [greeting 0, [(0, .receive ⟨1, some (.stream .watchNetwork)⟩), (0, .loop),
        (0, .receive ⟨3, some (.stopCapture 1)⟩)]])
      (fun w : Server => (w.comp 0).loop = .stopping 3 1 ∧ w.Lives ⟨0, 0⟩ ∧
        ¬ w.Told .abort ⟨0, 0⟩ ∧ (w.comp 0).tasks[0]?.map (·.captureId) = some none ∧
        (Server.step w (0, .loop)).any (fun w' => decide (w'.Told .abort ⟨0, 0⟩)) = true)
      (by decide +kernel)
    obtain ⟨w', hw', htold⟩ := (Option.any_eq_true _ _).mp hstep
    exact ⟨w, w', hrun, hloop, hw',
      not_stopsOnly_of_told hlives hnew (of_decide_eq_true htold) fun _ => by simp [hnone]⟩
  · obtain ⟨w, hrun, hloop, hlives, hnew, hstep⟩ := exists_run (fun _ _ => True)
      (List.flatten [greeting 0, runningCapture 0 0 2, greeting 1,
        [(1, .receive ⟨3, some (.stopCapture 1)⟩), (1, .loop)]])
      (fun w : Server => (w.comp 1).loop = .stoppingDaemon 3 1 ∧ w.Lives ⟨0, 0⟩ ∧
        ¬ w.Told .flag ⟨0, 0⟩ ∧
        (Server.step w (1, .loop)).any (fun w' => decide (w'.Told .flag ⟨0, 0⟩)) = true)
      (by decide +kernel)
    obtain ⟨w', hw', htold⟩ := (Option.any_eq_true _ _).mp hstep
    exact ⟨w, w', hrun, hloop, hw',
      not_stopsOnly_of_told hlives hnew (of_decide_eq_true htold) fun h => by cases h⟩
  · -- capture 1 is cancelled and dropped; capture 2 takes over its request id, and a
    -- `StopCapture` for it raises its flag
    obtain ⟨w, hrun, hloop, ⟨hlives, hnew⟩, hfirst, hsecond, hsent, hstep⟩ :=
      exists_run (fun _ _ => True)
      (List.flatten [greeting 0, runningCapture 0 0 1,
        [(0, .receive ⟨2, some (.cancel 1)⟩), (0, .loop), (0, .loop), (0, .loop), (0, .loop),
          (0, .poll 0)],
        runningCapture 0 1 1,
        [(0, .receive ⟨3, some (.stopCapture 2)⟩), (0, .loop), (0, .loop), (0, .loop), (0, .loop),
          (0, .loop), (0, .receive ⟨4, some (.stopCapture 1)⟩)]])
      (fun w : Server => (w.comp 0).loop = .stopping 4 1 ∧
        (w.Lives ⟨0, 1⟩ ∧ ¬ w.Told .abort ⟨0, 1⟩) ∧
        (w.comp 0).tasks[0]?.map (fun t => (t.id, t.captureId)) = some (1, some 1) ∧
        (w.comp 0).tasks[1]?.map (·.captureId) = some (some 2) ∧
        ServerFrame.mk 1 (.captureStarted 1) ∈ (w.comp 0).queued ∧
        (Server.step w (0, .loop)).any (fun w' => decide (w'.Told .abort ⟨0, 1⟩)) = true)
      (by decide +kernel)
    obtain ⟨task, ht, hids⟩ := Option.map_eq_some_iff.mp hfirst
    obtain ⟨hid, hcapture⟩ := Prod.mk.inj hids
    obtain ⟨w', hw', htold⟩ := (Option.any_eq_true _ _).mp hstep
    exact ⟨w, w', hrun, hloop, ⟨0, task, ht, hid, hcapture, hsent⟩, hw',
      not_stopsOnly_of_told hlives hnew (of_decide_eq_true htold) fun _ => by simp [hsecond]⟩

end Server

end Netdiag.Ipc
