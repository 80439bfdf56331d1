import Netdiag.Ipc.Effect

namespace Netdiag.Ipc

/-!
# IPC — the task table and the registry

Most of what a session does leaves its stream tasks and its registry alone.  `TableMove`
says what the rest can do to those two (and to the dispatch in progress), in the eight
shapes that matter to an invariant about them:

* `kept`, `spawned`, `moved` — nothing, a new task, a task that goes on;
* `filed`, `refused` — the two ends of `spawn_stream`;
* `released`, `left`, `tornDown` — an entry goes away because the client asks for it, because
  its task returns, or with all others.

`Effect.table` reads the shape off an effect.
-/

/-- A task goes on (it is polled, parked, dropped or steps) without returning. -/
structure StreamTask.GoesOn (t t' : StreamTask) : Prop where
  id_eq : t'.id = t.id
  abort_eq : t'.abortRequested = t.abortRequested
  finished : t'.status = .finished → t.status = .finished
  dropped : t'.status = .dropped → t.status = .dropped ∨ t.abortRequested = true
  live : t'.Live → t.Live

theorem StreamTask.GoesOn.of_status {t t' : StreamTask} (hid : t'.id = t.id)
    (habort : t'.abortRequested = t.abortRequested) (hstatus : t'.status = t.status) :
    t.GoesOn t' where
  id_eq := hid
  abort_eq := habort
  finished := by rw [hstatus]; exact fun h => h
  dropped := by rw [hstatus]; exact .inl
  live := by unfold Live; rw [hstatus]; exact fun h => h

/-- Polling a parked task. -/
theorem StreamTask.goesOn_poll {t : StreamTask} (h : t.status = .idle) : t.GoesOn t.poll := by
  unfold poll
  split
  -- an abort takes effect here: the future is dropped instead of being polled
  · rename_i ha
    exact ⟨rfl, rfl, by simp [drop], fun _ => .inr ha, fun _ => .inl h⟩
  · exact ⟨rfl, rfl, by simp, by simp, fun _ => .inl h⟩

/-- Parking a polled task. -/
theorem StreamTask.goesOn_yield {t : StreamTask} (h : t.status = .polling) :
    t.GoesOn t.yield := by
  unfold yield
  split
  · rename_i ha
    exact ⟨rfl, rfl, by simp [drop], fun _ => .inr ha, fun _ => .inr h⟩
  · exact ⟨rfl, rfl, by simp, by simp, fun _ => .inr h⟩

theorem BodyMove.goesOn {t t' : StreamTask} {reply : Option Reply} (h : BodyMove t t' reply) :
    t.GoesOn t' :=
  .of_status h.id_eq h.abort_eq h.status_eq

namespace Session

variable {d : Daemon} {s s' : Session} {a : Action}

/-- What a step can do to the tasks, the registry and the dispatch in progress. -/
inductive TableMove (s : Session) : Action → Session → Prop
  | kept {a : Action} {s' : Session} (htasks : s'.tasks = s.tasks)
      (hregistry : s'.registry = s.registry) (hspawning : s'.spawning = s.spawning)
      (hclosed : s'.loop = .closed → s.loop = .closed) : TableMove s a s'
  | spawned {a : Action} {s' : Session} (id : Nat) (call : StreamCall)
      (hnone : s.spawning = none) (htasks : s'.tasks = s.tasks ++ [.spawned id call])
      (hregistry : s'.registry = s.registry) (hloop : s'.loop = .inserting id s.tasks.length) :
      TableMove s a s'
  | moved {a : Action} {s' : Session} (t : Nat) (task task' : StreamTask)
      (htask : s.tasks[t]? = some task) (htasks : s'.tasks = s.tasks.set t task')
      (hregistry : s'.registry = s.registry) (hloop : s'.loop = s.loop)
      (hgoes : task.GoesOn task') : TableMove s a s'
  | filed {s' : Session} (id t : Nat) (previous : Option Nat)
      (hloop : s.loop = .inserting id t)
      (hinsert : s.registry.insert id t = .ok (s'.registry, previous))
      (htasks : s'.tasks = (s.abortEach previous.toList).tasks)
      (hnext : s'.loop = .reading) : TableMove s .loop s'
  | refused {s' : Session} (id t : Nat) (hspawning : s.spawning = some (id, t))
      (htasks : s'.tasks = (s.abortEach [t]).tasks) (hregistry : s'.registry = s.registry)
      (hnone : s'.spawning = none) (hopen : s'.loop ≠ .closed) : TableMove s .loop s'
  | released {s' : Session} (id : Nat) (hspawning : s.spawning = none)
      (htasks : s'.tasks = (s.abortEach (s.registry.lookup id).toList).tasks)
      (hregistry : s'.registry = s.registry.remove id) (hnone : s'.spawning = none)
      (hopen : s'.loop ≠ .closed) : TableMove s .loop s'
  | left {s' : Session} (t : Nat) (task : StreamTask) (input : Input)
      (htask : s.tasks[t]? = some task) (hstatus : task.status = .polling)
      (hpc : task.pc = .removing)
      (htasks : s'.tasks = s.tasks.set t { task with status := .finished })
      (hregistry : s'.registry = s.registry.remove task.id) (hloop : s'.loop = s.loop) :
      TableMove s (.task t input) s'
  | tornDown {s' : Session} (hspawning : s.spawning = none)
      (htasks : s'.tasks = (s.abortEach s.registry.handles).tasks)
      (hregistry : s'.registry = .new) (hclosed : s'.loop = .closed) : TableMove s .loop s'

/-- The dispatch in progress is read off the loop. -/
theorem spawning_of_loop (h : s'.loop = s.loop) : s'.spawning = s.spawning := by
  unfold spawning
  rw [h]

/-- Every effect has one of the eight shapes. -/
theorem Effect.table (h : Effect d s a s') : TableMove s a s' := by
  cases h with
  | answered f r greeted handled hloop hkind hstream =>
    exact .kept rfl rfl (by simp [spawning, hloop]) (by simp)
  | called f handled unaries loop hloop hstream hunaries hnext =>
    refine .kept rfl rfl ?_ ?_ <;>
      rcases hnext with rfl | ⟨_, rfl⟩ | ⟨_, rfl⟩ <;> simp [spawning, hloop]
  | spawned f call handled hloop hbody =>
    exact .spawned f.id call (by simp [spawning, hloop]) rfl rfl rfl
  | hangup a frames hloop hids loop hnext ha =>
    refine .kept rfl rfl ?_ ?_ <;> rcases hnext with rfl | rfl <;> simp [spawning, hloop]
  | answeredAll after loop hloop hnext =>
    refine .kept rfl rfl ?_ ?_ <;> rcases hnext with rfl | rfl <;> simp [spawning, hloop]
  | flushed f fs after s₁ hloop hsent =>
    exact .kept hsent.tasks_eq hsent.registry_eq (by simp [spawning, hloop]) (by simp)
  | cancelled id target t hloop hhit =>
    exact .released target (by simp [spawning, hloop]) (by rw [hhit]; rfl) rfl rfl (by simp [answer])
  | cancelMissed id target hloop hmiss =>
    exact .released target (by simp [spawning, hloop]) (by rw [hmiss]; rfl) rfl rfl
      (by simp [answer])
  | inserted id t registry previous hloop hinsert =>
    -- `insert` aborts what it replaces, after the new handle is in
    refine .filed id t previous hloop ?_ ?_ ?_
    · simpa using hinsert
    · exact List.ext_getElem? fun u => by rw [tasks_abortEach, tasks_abortEach]
    · simp
  | insertRefused id t e hloop hinsert =>
    exact .kept rfl rfl (by simp [spawning, hloop]) (by simp)
  | refused id t e hloop =>
    exact .refused id t (by simp [spawning, hloop]) rfl rfl rfl (by simp [answer])
  | stopped id captureId t hloop hhit =>
    exact .released captureId (by simp [spawning, hloop]) (by rw [hhit]; rfl) rfl rfl
      (by simp [answer])
  | stopMissed id captureId hloop hmiss =>
    -- `cancel` removes the key even when there is nothing under it
    exact .released captureId (by simp [spawning, hloop]) (by rw [hmiss]; rfl) rfl rfl (by simp)
  | stoppedDaemon id captureId hloop hhit =>
    exact .kept rfl rfl (by simp [spawning, hloop, answer]) (by simp [answer])
  | stopFailed id captureId e hloop hmiss =>
    exact .kept rfl rfl (by simp [spawning, hloop, answer]) (by simp [answer])
  | tornDown hloop =>
    refine .tornDown (by simp [spawning, hloop]) ?_ (by simp) (by simp)
    exact List.ext_getElem? fun u => by rw [tasks_abortEach, tasks_abortEach]
  | polled t task htask hstatus =>
    exact .moved t task _ htask rfl rfl rfl (StreamTask.goesOn_poll hstatus)
  | yielded t task htask hstatus =>
    exact .moved t task _ htask rfl rfl rfl (StreamTask.goesOn_yield hstatus)
  | bodyMoved t task task' b input htask hstatus hpc hmove =>
    exact .moved t task task' htask rfl rfl rfl hmove.goesOn
  | bodySent t task task' b r input s₁ htask hstatus hpc hmove hsent =>
    exact .moved t task task' htask hsent.tasks_setTask hsent.registry_eq hsent.loop_eq
      hmove.goesOn
  | ended t task outcome input s₁ htask hstatus hpc hsent =>
    exact .moved t task _ htask hsent.tasks_setTask hsent.registry_eq hsent.loop_eq
      (.of_status rfl rfl rfl)
  | removed t task input htask hstatus hpc =>
    exact .left t task input htask hstatus hpc rfl rfl rfl
  | forwarderMoved t task f f' act htask hf hfinished hquiet =>
    exact .moved t task _ htask rfl rfl rfl (.of_status rfl rfl rfl)
  | forwarderSent t task f f' act s₁ htask hf hfinished hbusy hsent =>
    exact .moved t task _ htask hsent.tasks_setTask hsent.registry_eq hsent.loop_eq
      (.of_status rfl rfl rfl)
  | unaryReplied u call error r s₁ hcall hkind hsent =>
    exact .kept hsent.tasks_eq hsent.registry_eq (spawning_of_loop hsent.loop_eq)
      (fun h => hsent.loop_eq ▸ h)
  | wrote a pending writerOpen ha => exact .kept rfl rfl rfl id

end Session

end Netdiag.Ipc
