import Netdiag.Ipc.Table

namespace Netdiag.Ipc

/-!
# IPC — the stream registry and the tasks it stands for

What the registry says about the stream tasks of a session, in every run:

* `Filed` — the invariant of all runs: an entry belongs to a task of its own id that has
  not been aborted, and the task `dispatch` is working on has no entry yet.
* `Open` — no entry outlives its task.  It survives every step except an insert that files
  the handle of a task which has already left the registry (`InsertsInTime`).
* `Tracked` — every running task has its own handle in the registry.  It survives every
  step except a `registry.remove` that hits the handle of a *newer* task of the same id
  (`RemovesOwn` excludes exactly that).
-/

namespace Session

variable {d : Daemon} {s s' : Session} {a : Action}

/-! ### Entries belong to their tasks -/

/-- Task `t` has this id and has not been aborted. -/
def Holds (s : Session) (t id : Nat) : Prop :=
  ∃ task, s.tasks[t]? = some task ∧ task.id = id ∧ task.abortRequested = false

/-- Entries carry the id of their task and are never aborted ones; a task being
    dispatched is not filed yet; only an aborted task is ever dropped. -/
structure Filed (s : Session) : Prop where
  dropped : ∀ (t : Nat) task, s.tasks[t]? = some task → task.status = .dropped →
    task.abortRequested = true
  entry : ∀ id t, s.registry.lookup id = some t → s.Holds t id
  fresh : ∀ id t, s.spawning = some (id, t) →
    s.Holds t id ∧ ∀ id', s.registry.lookup id' ≠ some t

theorem Filed.init : Filed Session.init where
  dropped := by simp [Session.init]
  entry := by simp [Session.init]
  fresh := by simp [Session.init, spawning]

/-- Two ids never share a handle. -/
theorem Filed.id_unique (hs : Filed s) {id id' t : Nat} (h : s.registry.lookup id = some t)
    (h' : s.registry.lookup id' = some t) : id = id' := by
  obtain ⟨x, hx, hid, -⟩ := hs.entry id t h
  obtain ⟨y, hy, hid', -⟩ := hs.entry id' t h'
  rw [hx] at hy
  cases hy
  exact hid.symm.trans hid'

/-- A filed task that has not returned is running. -/
theorem Filed.running (hs : Filed s) {t id : Nat} (h : s.Holds t id)
    (hopen : ∀ task ∈ s.tasks[t]?, task.status ≠ .finished) :
    ∃ task, s.tasks[t]? = some task ∧ task.id = id ∧ task.Running := by
  obtain ⟨task, htask, hid, habort⟩ := h
  refine ⟨task, htask, hid, ?_, habort⟩
  -- of the four statuses only idle and polling are left
  have hfin := hopen task htask
  have hdrop := hs.dropped t task htask
  unfold StreamTask.Live
  cases hst : task.status <;> simp_all

/-- A task that goes on keeps its id and its abort flag. -/
theorem Holds.of_moved {t u id : Nat} {task task' : StreamTask}
    (htask : s.tasks[t]? = some task) (htasks : s'.tasks = s.tasks.set t task')
    (hid : task'.id = task.id) (habort : task'.abortRequested = task.abortRequested)
    (h : s.Holds u id) : s'.Holds u id := by
  obtain ⟨x, hx, hxid, hxa⟩ := h
  unfold Holds
  rw [htasks]
  grind

/-- A task none of the `handles` belongs to is not touched. -/
theorem Holds.of_abortEach {handles : List Nat} {t id : Nat}
    (htasks : s'.tasks = (s.abortEach handles).tasks) (hnot : t ∉ handles)
    (h : s.Holds t id) : s'.Holds t id := by
  obtain ⟨task, htask, hrest⟩ := h
  refine ⟨task, ?_, hrest⟩
  rw [htasks, tasks_abortEach, if_neg hnot]
  exact htask

/-- Aborting does not drop. -/
theorem Filed.dropped_of_abortEach (hs : Filed s) {handles : List Nat}
    (htasks : s'.tasks = (s.abortEach handles).tasks) (t : Nat) (task : StreamTask)
    (ht : s'.tasks[t]? = some task) (hst : task.status = .dropped) :
    task.abortRequested = true := by
  rw [htasks, tasks_abortEach] at ht
  have hold := hs.dropped t
  grind [StreamTask.abort]

/-- **Every run.**  `Filed` survives every step. -/
theorem Filed.step (hs : Filed s) (h : TableMove s a s') : Filed s' := by
  cases h with
  | kept htasks hregistry hspawning hclosed =>
    refine ⟨by rw [htasks]; exact hs.dropped, ?_, ?_⟩
    · unfold Holds; rw [htasks, hregistry]; exact hs.entry
    · unfold Holds; rw [htasks, hregistry, hspawning]; exact hs.fresh
  | spawned id call hnone htasks hregistry hloop =>
    have hold : ∀ t id', s.Holds t id' → s'.Holds t id' := by
      rintro t id' ⟨task, htask, hrest⟩
      refine ⟨task, ?_, hrest⟩
      rw [htasks]
      grind
    refine ⟨?_, fun id' t ht => hold t id' (hs.entry id' t (hregistry ▸ ht)), ?_⟩
    · have := hs.dropped
      rw [htasks]
      grind [StreamTask.spawned]
    · intro id' t ht
      simp only [spawning, hloop, Option.some.injEq, Prod.mk.injEq] at ht
      obtain ⟨rfl, rfl⟩ := ht
      refine ⟨⟨.spawned id call, by rw [htasks]; simp, rfl, rfl⟩, fun id' ht => ?_⟩
      -- an entry for the new task would point past the end of the old table
      obtain ⟨task, htask, -⟩ := hs.entry id' _ (hregistry ▸ ht)
      simp at htask
  | moved t task task' htask htasks hregistry hloop hgoes =>
    have hold : ∀ u id, s.Holds u id → s'.Holds u id :=
      fun u id => Holds.of_moved htask htasks hgoes.id_eq hgoes.abort_eq
    refine ⟨?_, fun id u hu => hold u id (hs.entry id u (hregistry ▸ hu)), fun id u hu => ?_⟩
    · have hdropped := hs.dropped
      have hgone := hgoes.dropped
      have habort := hgoes.abort_eq
      rw [htasks]
      grind
    · obtain ⟨hmine, hfree⟩ := hs.fresh id u (spawning_of_loop hloop ▸ hu)
      exact ⟨hold u id hmine, by rw [hregistry]; exact hfree⟩
  | filed id t previous hloop hinsert htasks hnext =>
    -- the replaced handle is not the new one, which had no entry, nor another id's
    obtain ⟨hmine, hfree⟩ := hs.fresh id t (by simp [spawning, hloop])
    have hprev := StreamRegistry.previous_of_insert hinsert
    refine ⟨hs.dropped_of_abortEach htasks, fun id' u hu => ?_, by simp [spawning, hnext]⟩
    rw [StreamRegistry.lookup_of_insert hinsert] at hu
    split at hu
    · rename_i hid
      cases hu
      subst hid
      exact hmine.of_abortEach htasks (by rw [hprev, Option.mem_toList]; exact hfree id')
    · rename_i hid
      refine (hs.entry id' u hu).of_abortEach htasks ?_
      rw [hprev, Option.mem_toList]
      exact fun h => hid (hs.id_unique hu h)
  | refused id t hspawning htasks hregistry hnone hopen =>
    obtain ⟨-, hfree⟩ := hs.fresh id t hspawning
    -- the refused task is aborted, but it was never filed
    refine ⟨hs.dropped_of_abortEach htasks, fun id' u hu => ?_, by simp [hnone]⟩
    rw [hregistry] at hu
    refine (hs.entry id' u hu).of_abortEach htasks ?_
    rw [List.mem_singleton]
    rintro rfl
    exact hfree id' hu
  | released id hspawning htasks hregistry hnone hopen =>
    refine ⟨hs.dropped_of_abortEach htasks, fun id' u hu => ?_, by simp [hnone]⟩
    rw [hregistry] at hu
    obtain ⟨hne, hold⟩ := StreamRegistry.lookup_of_remove hu
    refine (hs.entry id' u hold).of_abortEach htasks ?_
    rw [Option.mem_toList]
    exact fun h => hne (hs.id_unique hold h)
  | left t task input htask hstatus hpc htasks hregistry hloop =>
    have hold : ∀ u id, s.Holds u id → s'.Holds u id :=
      fun u id => Holds.of_moved htask htasks rfl rfl
    refine ⟨?_, fun id u hu => ?_, fun id u hu => ?_⟩
    · have hdropped := hs.dropped
      rw [htasks]
      grind
    · rw [hregistry] at hu
      -- removing only takes entries away
      exact hold u id (hs.entry id u (StreamRegistry.lookup_of_remove hu).2)
    · obtain ⟨hmine, hfree⟩ := hs.fresh id u (spawning_of_loop hloop ▸ hu)
      refine ⟨hold u id hmine, fun id' hid' => hfree id' ?_⟩
      rw [hregistry] at hid'
      exact (StreamRegistry.lookup_of_remove hid').2
  | tornDown hspawning htasks hregistry hclosed =>
    exact ⟨hs.dropped_of_abortEach htasks, by simp [hregistry], by simp [spawning, hclosed]⟩

/-! ### The running tasks -/

/-- The stream tasks that are spawned, not finished and not aborted. -/
def running (s : Session) : List Nat :=
  (List.range s.tasks.length).filter (fun t => decide (∃ task ∈ s.tasks[t]?, task.Running))

theorem mem_running {t : Nat} :
    t ∈ s.running ↔ ∃ task, s.tasks[t]? = some task ∧ task.Running := by
  simp only [running, List.mem_filter, List.mem_range, decide_eq_true_eq, Option.mem_def]
  constructor
  · rintro ⟨-, h⟩; exact h
  · rintro ⟨task, htask, hr⟩
    exact ⟨(List.getElem?_eq_some_iff.mp htask).1, task, htask, hr⟩

theorem nodup_running (s : Session) : s.running.Nodup :=
  List.nodup_range.filter _

/-- The registry has as many handles as ids. -/
theorem length_handles (r : StreamRegistry) : r.handles.length = r.streams.keys.length := by
  simp [StreamRegistry.handles, AList.keys, List.keys]

/-- No handle is filed twice. -/
theorem Filed.nodup_handles (hs : Filed s) : s.registry.handles.Nodup := by
  have hentries : s.registry.streams.entries.Nodup := s.registry.streams.nodupKeys.nodup
  refine hentries.map_on ?_
  rintro ⟨id, t⟩ h ⟨id', t'⟩ h' heq
  -- one task has one id, so one handle has one key
  have heq' : t = t' := heq
  subst heq'
  have hid : id = id' := hs.id_unique (AList.mem_lookup_iff.mpr h) (AList.mem_lookup_iff.mpr h')
  rw [hid]

/-! ### No entry outlives its task -/

/-- The task whose handle the next step of the read loop files. -/
def filing (s : Session) : Option Nat :=
  match s.loop with
  | .inserting _ t => if s.registry.streams.keys.length < maxStreams then some t else none
  | _ => none

/-- An insert files the handle of a task that has not yet left the registry. -/
def InsertsInTime (_ : Daemon) (s : Session) (a : Action) : Prop :=
  a = .loop → ∀ t ∈ s.filing, ∀ task ∈ s.tasks[t]?, task.status ≠ .finished

instance (d : Daemon) (s : Session) (a : Action) : Decidable (InsertsInTime d s a) :=
  inferInstanceAs (Decidable (_ → ∀ t ∈ _, ∀ task ∈ _, _))

/-- A successful insert is what `filing` announces. -/
theorem filing_of_insert {id t : Nat} {registry : StreamRegistry} {previous : Option Nat}
    (hloop : s.loop = .inserting id t)
    (hinsert : s.registry.insert id t = .ok (registry, previous)) : s.filing = some t := by
  unfold filing
  rw [hloop]
  show (if _ < maxStreams then some t else none) = some t
  rw [if_pos]
  -- `insert` succeeds only below the limit
  unfold StreamRegistry.insert at hinsert
  split at hinsert
  · cases hinsert
  · omega

/-- No entry belongs to a task that has executed its final `registry.remove`. -/
def Open (s : Session) : Prop :=
  ∀ id t, s.registry.lookup id = some t → ∀ task ∈ s.tasks[t]?, task.status ≠ .finished

/-- Aborting finishes nothing. -/
theorem unfinished_of_abortEach {handles : List Nat}
    (htasks : s'.tasks = (s.abortEach handles).tasks) {t : Nat}
    (h : ∀ task ∈ s.tasks[t]?, task.status ≠ .finished) :
    ∀ task ∈ s'.tasks[t]?, task.status ≠ .finished := by
  rw [htasks, tasks_abortEach]
  grind [StreamTask.abort]

/-- `Open` survives every step whose insert, if it makes one, comes in time. -/
theorem Open.step (hs : Filed s) (ho : Open s) (hok : InsertsInTime d s a)
    (h : TableMove s a s') : Open s' := by
  intro id u hu
  cases h with
  | kept htasks hregistry hspawning hclosed =>
    rw [htasks]
    exact ho id u (hregistry ▸ hu)
  | spawned id' call hnone htasks hregistry hloop =>
    have hold := ho id u (hregistry ▸ hu)
    rw [htasks]
    grind [StreamTask.spawned]
  | moved t task task' htask htasks hregistry hloop hgoes =>
    have hold := ho id u (hregistry ▸ hu)
    have hfin := hgoes.finished
    rw [htasks]
    grind
  | filed id' t previous hloop hinsert htasks hnext =>
    refine unfinished_of_abortEach htasks ?_
    rw [StreamRegistry.lookup_of_insert hinsert] at hu
    split at hu
    · cases hu
      -- the only step that can file a task which has already left
      exact hok rfl u (filing_of_insert hloop hinsert)
    · exact ho id u hu
  | refused id' t hspawning htasks hregistry hnone hopen =>
    exact unfinished_of_abortEach htasks (ho id u (hregistry ▸ hu))
  | released id' hspawning htasks hregistry hnone hopen =>
    rw [hregistry] at hu
    exact unfinished_of_abortEach htasks (ho id u (StreamRegistry.lookup_of_remove hu).2)
  | left t task input htask hstatus hpc htasks hregistry hloop =>
    rw [hregistry] at hu
    obtain ⟨hne, hold⟩ := StreamRegistry.lookup_of_remove hu
    -- the task that returns is only ever filed under the id it removes
    have htu : t ≠ u := by
      rintro rfl
      obtain ⟨x, hx, hid, -⟩ := hs.entry id t hold
      rw [htask] at hx
      cases hx
      exact hne hid.symm
    rw [htasks, List.getElem?_set_ne htu]
    exact ho id u hold
  | tornDown hspawning htasks hregistry hclosed => simp [hregistry] at hu

/-! ### Every running task has an entry -/

/-- The task this step takes out of the registry by its final `registry.remove`. -/
def leaving (s : Session) : Action → Option (Nat × StreamTask)
  | .task t _ =>
      (s.tasks[t]?.filter (fun task => task.status = .polling ∧ task.pc = .removing)).map
        (fun task => (t, task))
  | _ => none

/-- A final `registry.remove` does not take out the handle of another task that is still
    running. -/
def RemovesOwn (_ : Daemon) (s : Session) (a : Action) : Prop :=
  ∀ e ∈ s.leaving a, ∀ u ∈ s.registry.lookup e.2.id, u ≠ e.1 →
    ∀ other ∈ s.tasks[u]?, ¬ other.Running

instance (d : Daemon) (s : Session) (a : Action) : Decidable (RemovesOwn d s a) :=
  inferInstanceAs (Decidable (∀ e ∈ _, ∀ u ∈ _, _ → ∀ other ∈ _, _))

/-- A running task has its own handle in the registry, or is being dispatched; past
    `abort_all` the registry is empty. -/
structure Tracked (s : Session) : Prop where
  filed : ∀ (t : Nat) task, s.tasks[t]? = some task → task.Running →
    s.registry.lookup task.id = some t ∨ s.spawning = some (task.id, t)
  empty : s.loop = .closed → ∀ id, s.registry.lookup id = none

theorem Tracked.init : Tracked Session.init where
  filed := by simp [Session.init]
  empty := by simp [Session.init]

/-- What is running after an abort was running before, and was not aborted. -/
theorem running_of_abortEach {handles : List Nat}
    (htasks : s'.tasks = (s.abortEach handles).tasks) {t : Nat} {task : StreamTask}
    (ht : s'.tasks[t]? = some task) (hr : task.Running) :
    t ∉ handles ∧ s.tasks[t]? = some task := by
  rw [htasks, tasks_abortEach] at ht
  split at ht
  · obtain ⟨x, hx, rfl⟩ := Option.map_eq_some_iff.mp ht
    -- an abort leaves a task that is gone or flagged
    obtain ⟨hlive, hflag⟩ := hr
    unfold StreamTask.abort at hlive hflag
    split at hflag
    · cases hflag
    · rename_i hgone
      rw [if_neg hgone] at hlive
      exact absurd hlive hgone
  · rename_i hnot; exact ⟨hnot, ht⟩

/-- `Tracked` survives every step in which a finishing task removes its own handle only. -/
theorem Tracked.step (ht : Tracked s) (hok : RemovesOwn d s a)
    (h : TableMove s a s') : Tracked s' := by
  cases h with
  | kept htasks hregistry hspawning hclosed =>
    refine ⟨?_, fun hc => ?_⟩
    · rw [htasks, hregistry, hspawning]; exact ht.filed
    · rw [hregistry]; exact ht.empty (hclosed hc)
  | spawned id call hnone htasks hregistry hloop =>
    refine ⟨fun t task htask hr => ?_, by simp [hloop]⟩
    rw [htasks] at htask
    rcases Runs.push_cases htask with hold | ⟨rfl, rfl⟩
    · -- no other dispatch was in progress, so an old task is in the registry
      have hfiled := ht.filed t task hold hr
      rw [hnone] at hfiled
      exact .inl (hregistry ▸ hfiled.resolve_right (by simp))
    · right
      simp [spawning, hloop, StreamTask.spawned]
  | moved t task task' htask htasks hregistry hloop hgoes =>
    refine ⟨fun u x hx hr => ?_, fun hc => ?_⟩
    · rw [hregistry, spawning_of_loop hloop]
      rw [htasks] at hx
      rcases Runs.set_cases htask hx with ⟨rfl, rfl⟩ | ⟨-, hx⟩
      · rw [hgoes.id_eq]
        exact ht.filed t task htask ⟨hgoes.live hr.1, hgoes.abort_eq ▸ hr.2⟩
      · exact ht.filed u x hx hr
    · rw [hregistry]; exact ht.empty (hloop ▸ hc)
  | filed id t previous hloop hinsert htasks hnext =>
    refine ⟨fun u x hx hr => .inl ?_, by simp [hnext]⟩
    obtain ⟨hnot, hx⟩ := running_of_abortEach htasks hx hr
    rw [StreamRegistry.lookup_of_insert hinsert]
    rcases ht.filed u x hx hr with hold | hnew
    · -- the replaced handle was aborted, so this one is filed under another id
      rw [if_neg, hold]
      rintro hid
      rw [StreamRegistry.previous_of_insert hinsert, Option.mem_toList, ← hid] at hnot
      exact hnot hold
    · simp only [spawning, hloop, Option.some.injEq, Prod.mk.injEq] at hnew
      rw [if_pos hnew.1.symm, hnew.2]
  | refused id t hspawning htasks hregistry hnone hopen =>
    refine ⟨fun u x hx hr => .inl ?_, fun hc => absurd hc hopen⟩
    obtain ⟨hnot, hx⟩ := running_of_abortEach htasks hx hr
    rw [hregistry]
    -- the task being dispatched is the one just aborted, so it does not run
    refine (ht.filed u x hx hr).resolve_right fun hnew => ?_
    rw [hspawning] at hnew
    cases hnew
    simp at hnot
  | released id hspawning htasks hregistry hnone hopen =>
    refine ⟨fun u x hx hr => .inl ?_, fun hc => absurd hc hopen⟩
    obtain ⟨hnot, hx⟩ := running_of_abortEach htasks hx hr
    have hold := (ht.filed u x hx hr).resolve_right (by simp [hspawning])
    rw [hregistry, StreamRegistry.lookup_remove, if_neg, hold]
    rintro hid
    rw [Option.mem_toList, ← hid] at hnot
    exact hnot hold
  | left t task input htask hstatus hpc htasks hregistry hloop =>
    refine ⟨fun u x hx hr => ?_, fun hc id => ?_⟩
    · rw [spawning_of_loop hloop]
      rw [htasks] at hx
      rcases Runs.set_cases htask hx with ⟨-, rfl⟩ | ⟨htu, hx⟩
      · -- the task that returns is not running any more
        simp [StreamTask.Running, StreamTask.Live] at hr
      rcases ht.filed u x hx hr with hold | hnew
      · left
        rw [hregistry, StreamRegistry.lookup_remove, if_neg, hold]
        rintro hid
        -- the entry under the removed id is a running task other than the one leaving:
        -- exactly what `RemovesOwn` excludes
        have hleaving : s.leaving (.task t input) = some (t, task) := by
          simp [leaving, htask, hstatus, hpc]
        exact hok (t, task) hleaving u (hid ▸ hold) (Ne.symm htu) x hx hr
      · exact .inr hnew
    · rw [hregistry, StreamRegistry.lookup_remove]
      split
      · rfl
      · exact ht.empty (hloop ▸ hc) id
  | tornDown hspawning htasks hregistry hclosed =>
    refine ⟨fun u x hx hr => ?_, by simp [hregistry]⟩
    obtain ⟨hnot, hx⟩ := running_of_abortEach htasks hx hr
    have hold := (ht.filed u x hx hr).resolve_right (by simp [hspawning])
    -- `abort_all` reaches every handle, and every running task has one
    exact absurd (StreamRegistry.mem_handles.mpr ⟨x.id, hold⟩) hnot

/-! ### A client that does not reuse an id too early -/

/-- Is the newest call with this id, if there is one, ended by a frame queued since?
    `replies` are the frames with the id met so far, going back in the history. -/
def callEnded (id : Nat) (replies : List Reply) : List Event → Bool
  | [] => true
  | .queued f :: rest => callEnded id (if f.id = id then f.body :: replies else replies) rest
  | .received f :: rest =>
      if f.id = id then replies.any (Reply.terminates f.body) else callEnded id replies rest

/-- The client does not reuse an id before the previous call with it has had its
    terminator queued. -/
def ReusesEndedIds (_ : Daemon) (s : Session) (a : Action) : Prop :=
  match a with
  | .receive f => callEnded f.id [] s.history = true
  | _ => True

instance (d : Daemon) (s : Session) (a : Action) : Decidable (ReusesEndedIds d s a) :=
  match a with
  | .receive f => inferInstanceAs (Decidable (callEnded f.id [] s.history = true))
  | .malformed _ | .disconnect | .loop | .poll _ | .yield _ | .task _ _ | .forwarder _ _
  | .unary _ _ | .writerTake | .writerClose => .isTrue trivial

end Session

/-! ### Whole runs -/

namespace Server

variable {k : Nat} {w : Server}

/-- The first stream of connection `k` is a capture that cannot be opened.  Its task runs
    up to its final `registry.remove` before anything else happens. -/
def failedCapture (k id : Nat) : List (Nat × Session.Action) :=
  [(k, .receive ⟨id, some (.stream (.startCapture ⟨0, 0⟩))⟩), (k, .poll 0),
    (k, .task 0 (.opened (some (.invalid "no such interface")))), (k, .task 0 .go)]

/-- `Filed` holds in every run. -/
theorem filed (P : Daemon → Session → Session.Action → Prop) (hrun : Run (On k P) w) :
    (w.comp k).Filed :=
  session_invariant hrun .init fun _ _ _ _ hs _ he => hs.step he.table

/-- `Open` holds in every run whose inserts come in time. -/
theorem open_of_run (hrun : Run (On k Session.InsertsInTime) w) : (w.comp k).Open := by
  let Inv (s : Session) : Prop := s.Filed ∧ s.Open
  have h0 : Inv Session.init := ⟨.init, by simp [Session.Open, Session.init]⟩
  have h : Inv (w.comp k) := session_invariant hrun h0 fun _ _ _ _ hinv hok he =>
    ⟨hinv.1.step he.table, hinv.2.step hinv.1 hok he.table⟩
  exact h.2

/-- `Tracked` holds in every run whose tasks remove their own handles only. -/
theorem tracked_of_run (hrun : Run (On k Session.RemovesOwn) w) : (w.comp k).Tracked :=
  session_invariant hrun .init fun _ _ _ _ ht hok he => ht.step hok he.table

/-- **Stale entries.**  In every run of a connection whose inserts come in time, no entry
    belongs to a task that has executed its final `registry.remove`; `Cancel` answers
    `was_active` for a stream that is running only, and a stream is refused only while
    `maxStreams` others are running. -/
theorem no_entry_outlives_its_task (hrun : Run (On k Session.InsertsInTime) w) :
    ((w.comp k).spawning = none → (w.comp k).Open) ∧
    (∀ id target d' s', (w.comp k).loop = .cancelling id target →
      Session.step k w.shared (w.comp k) .loop = some (d', s') →
      ServerFrame.mk id (.cancel true) ∈ s'.replies →
      ∃ t task, (w.comp k).registry.lookup target = some t ∧
        (w.comp k).tasks[t]? = some task ∧ task.id = target ∧ task.Running) ∧
    ∀ id t e d' s', (w.comp k).loop = .inserting id t →
      Session.step k w.shared (w.comp k) .loop = some (d', s') →
      s'.loop = .refused id t e → maxStreams ≤ ((w.comp k).running.erase t).length := by
  have hfiled := filed _ hrun
  have hopen := open_of_run hrun
  refine ⟨fun _ => hopen, ?_, ?_⟩
  · intro id target d' s' hloop hstep htrue
    -- a miss is answered `was_active: false`
    have hhit : ∃ t, (w.comp k).registry.lookup target = some t := by
      by_contra hmiss
      have hnone : (w.comp k).registry.lookup target = none := by
        simpa [Option.eq_none_iff_forall_not_mem] using hmiss
      simp only [Session.step, Session.loopStep, hloop, StreamRegistry.cancel, hnone] at hstep
      cases hstep
      simp [Session.replies, Session.answer, Session.cancelReplies] at htrue
    obtain ⟨t, ht⟩ := hhit
    obtain ⟨task, htask, hid, hr⟩ := hfiled.running (hfiled.entry target t ht) (hopen target t ht)
    exact ⟨t, task, ht, htask, hid, hr⟩
  · intro id t e d' s' hloop hstep hrefused
    -- the limit is reached in the registry, which counts entries and not tasks
    have hfull : (w.comp k).registry.streams.keys.length = maxStreams := by
      cases hinsert : (w.comp k).registry.insert id t with
      | error e => exact StreamRegistry.full_of_insert hinsert
      | ok r =>
        obtain ⟨registry, previous⟩ := r
        simp only [Session.step, Session.loopStep, hloop, hinsert] at hstep
        cases previous <;> cases hstep <;> simp [Session.abort] at hrefused
    -- every entry is a running task, and none of them is the one being spawned
    have hsub : (w.comp k).registry.handles ⊆ (w.comp k).running.erase t := by
      intro u hu
      obtain ⟨id', hid'⟩ := StreamRegistry.mem_handles.mp hu
      obtain ⟨task, htask, -, hr⟩ := hfiled.running (hfiled.entry id' u hid') (hopen id' u hid')
      have hne : u ≠ t := by
        rintro rfl
        exact (hfiled.fresh id u (by simp [Session.spawning, hloop])).2 id' hid'
      rw [List.mem_erase_of_ne hne]
      exact Session.mem_running.mpr ⟨task, htask, hr⟩
    have hle := (List.subperm_of_subset hfiled.nodup_handles hsub).length_le
    rw [Session.length_handles, hfull] at hle
    exact hle

/-- A watch is opened and filed before it ends; its entry is open. -/
theorem no_entry_outlives_its_task_watch :
    ∃ w, Run (On 0 Session.InsertsInTime) w ∧ (w.comp 0).registry.lookup 2 = some 0 ∧
      (w.comp 0).Open := by
  obtain ⟨w, hrun, hfiled, hidle⟩ := exists_run (On 0 Session.InsertsInTime)
    (List.flatten [greeting 0, [(0, .receive ⟨2, some (.stream .watchNetwork)⟩), (0, .loop),
      (0, .poll 0)]])
    (fun w : Server => (w.comp 0).registry.lookup 2 = some 0 ∧ (w.comp 0).spawning = none)
    (by decide +kernel)
  exact ⟨w, hrun, hfiled, (no_entry_outlives_its_task hrun).1 hidle⟩

/-- A capture that cannot be opened returns before `spawn_stream` files it: no dispatch is
    in progress, its `StreamEnd` is queued and its task has returned, but its entry stays,
    and a `Cancel` is answered `was_active`. -/
theorem stale_entry_of_failed_capture :
    (∃ w, Reachable w ∧ (w.comp 0).spawning = none ∧ ¬ (w.comp 0).Open) ∧
    ∃ w, Reachable w ∧ (w.comp 0).tasks.map (·.status) = [.finished] ∧
      ServerFrame.mk 3 (.cancel true) ∈ (w.comp 0).queued := by
  refine ⟨?_, ?_⟩
  · obtain ⟨w, hrun, hidle, hfiled, hfinished⟩ := exists_run (fun _ _ => True)
      (List.flatten [greeting 0, failedCapture 0 2, [(0, .task 0 .go), (0, .loop)]])
      (fun w : Server => (w.comp 0).spawning = none ∧ (w.comp 0).registry.lookup 2 = some 0 ∧
        (w.comp 0).tasks[0]?.map (·.status) = some .finished)
      (by decide +kernel)
    obtain ⟨task, htask, hstatus⟩ := Option.map_eq_some_iff.mp hfinished
    exact ⟨w, hrun, hidle, fun hopen => hopen 2 0 hfiled task htask hstatus⟩
  · obtain ⟨w, hrun, hfinished, hcancel⟩ := exists_run (fun _ _ => True)
      (List.flatten [greeting 0, failedCapture 0 2, [(0, .task 0 .go), (0, .loop),
        (0, .receive ⟨3, some (.cancel 2)⟩), (0, .loop), (0, .loop), (0, .loop)]])
      (fun w : Server => (w.comp 0).tasks.map (·.status) = [.finished] ∧
        ServerFrame.mk 3 (.cancel true) ∈ (w.comp 0).queued)
      (by decide +kernel)
    exact ⟨w, hrun, hfinished, hcancel⟩

/-- **Running streams.**  In every run of a connection whose finishing tasks remove their
    own handles only: while no dispatch is in progress every running stream task has its own
    handle in the registry, so at most `maxStreams` run, and none runs past `abort_all`. -/
theorem running_streams_are_tracked (hrun : Run (On k Session.RemovesOwn) w)
    (hidle : (w.comp k).spawning = none) :
    (∀ (t : Nat) task, (w.comp k).tasks[t]? = some task → task.Running →
      (w.comp k).registry.lookup task.id = some t) ∧
    (w.comp k).running.length ≤ maxStreams ∧
    ((w.comp k).loop = .closed → (w.comp k).running = []) := by
  have ht := tracked_of_run hrun
  have hfiled : ∀ (t : Nat) task, (w.comp k).tasks[t]? = some task → task.Running →
      (w.comp k).registry.lookup task.id = some t := by
    intro t task htask hr
    exact (ht.filed t task htask hr).resolve_right (by simp [hidle])
  refine ⟨hfiled, ?_, fun hclosed => ?_⟩
  -- distinct running tasks have distinct handles, and `insert` bounds those
  · have hsub : (w.comp k).running ⊆ (w.comp k).registry.handles := by
      intro t hrunning
      obtain ⟨task, htask, hr⟩ := Session.mem_running.mp hrunning
      exact StreamRegistry.mem_handles.mpr ⟨task.id, hfiled t task htask hr⟩
    have hle := (List.subperm_of_subset (Session.nodup_running _) hsub).length_le
    rw [Session.length_handles] at hle
    exact le_trans hle (w.comp k).registry.bounded
  · rw [List.eq_nil_iff_forall_not_mem]
    intro t hrunning
    obtain ⟨task, htask, hr⟩ := Session.mem_running.mp hrunning
    have hentry := hfiled t task htask hr
    rw [ht.empty hclosed] at hentry
    cases hentry

/-- Two watches are opened; both run, and both are filed. -/
theorem running_streams_are_tracked_watches :
    ∃ w, Run (On 0 Session.RemovesOwn) w ∧ (w.comp 0).tasks.length = 2 ∧
      (w.comp 0).running.length ≤ maxStreams := by
  obtain ⟨w, hrun, htwo, hidle⟩ := exists_run (On 0 Session.RemovesOwn)
    (List.flatten [greeting 0, [(0, .receive ⟨2, some (.stream .watchNetwork)⟩), (0, .loop),
      (0, .poll 0), (0, .receive ⟨3, some (.stream .watchRoutes)⟩), (0, .loop)]])
    (fun w : Server => (w.comp 0).tasks.length = 2 ∧ (w.comp 0).spawning = none)
    (by decide +kernel)
  exact ⟨w, hrun, htwo, (running_streams_are_tracked hrun hidle).2.1⟩

/-- The client reuses id 2 once the capture that had it has queued its `StreamEnd`.  The
    new watch is filed, the old task's `registry.remove` takes *its* handle out, and the
    watch runs on after the connection is gone. -/
theorem reused_id_leaks_its_stream :
    ∃ w, Run (On 0 Session.ReusesEndedIds) w ∧ (w.comp 0).loop = .closed ∧
      (w.comp 0).spawning = none ∧ (w.comp 0).registry.lookup 2 = none ∧
      (w.comp 0).running = [1] := by
  obtain ⟨w, hrun, h⟩ := exists_run (On 0 Session.ReusesEndedIds)
    (List.flatten [greeting 0, [(0, .receive ⟨2, some (.stream (.startCapture ⟨0, 0⟩))⟩),
      (0, .loop), (0, .poll 0), (0, .task 0 (.opened (some (.invalid "no such interface")))),
      (0, .task 0 .go), (0, .receive ⟨2, some (.stream .watchNetwork)⟩), (0, .loop),
      (0, .task 0 .go), (0, .disconnect), (0, .loop)]])
    (fun w : Server => (w.comp 0).loop = .closed ∧ (w.comp 0).spawning = none ∧
      (w.comp 0).registry.lookup 2 = none ∧ (w.comp 0).running = [1])
    (by decide +kernel)
  exact ⟨w, hrun, h⟩

end Server

end Netdiag.Ipc
