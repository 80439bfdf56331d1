import Netdiag.Diag.Streamed
import Netdiag.Ipc.Unary

namespace Netdiag.Diag

/-!
# Diagnosis — the stream as a task of its session

A session knows a `Diagnose` call as a task that counts checks and a forwarder beside it.  Every
run of `diagnose_stream` whose client keeps reading is one of that task.

* `Tracks` — the session is where the stream is, and has queued its frames.
* `step_tracked` — a step of the stream is one of the session's task or forwarder.
* `diagnose_refines` — a run, from the request to the `StreamEnd`.
-/

open Ipc (ServerFrame StreamTask Forwarder Session)

namespace DiagnoseStream

/-- The frame of the call that carries it. -/
def frame (id : Nat) : DiagnoseProgress → ServerFrame
  | .check _ => ⟨id, .diagnose .check⟩
  | .response _ => ⟨id, .diagnose .response⟩

/-- Task `t` of the session is the stream, and `base` was queued before it. -/
structure Tracks (id t : Nat) (base : List ServerFrame) (s : DiagnoseStream)
    (session : Session) : Prop where
  task : session.tasks[t]? = some (s.toTask id)
  writable : session.writerOpen = true
  queued : session.queued = base ++ s.frames.map (frame id)

variable {state : DiagState} {s s' : DiagnoseStream} {a : Act} {id t : Nat}
  {base : List ServerFrame} {d : Ipc.Daemon} {session : Session}

theorem Tracks.lt (h : Tracks id t base s session) : t < session.tasks.length :=
  (List.getElem?_eq_some_iff.mp h.task).1

/-- The task moves, and nothing is queued. -/
theorem Tracks.moved (h : Tracks id t base s session) (same : s'.frames = s.frames) :
    Tracks id t base s' (session.setTask t (s'.toTask id)) where
  task := List.getElem?_set_self h.lt
  writable := h.writable
  queued := by
    rw [same]
    exact h.queued

/-- The task moves, and a frame is queued. -/
theorem Tracks.sent (h : Tracks id t base s session) (progress : DiagnoseProgress)
    (more : s'.frames = s.frames ++ [progress]) :
    Tracks id t base s' ((session.push (frame id progress)).setTask t (s'.toTask id)) where
  task := List.getElem?_set_self h.lt
  writable := h.writable
  queued := by
    show (session.push (frame id progress)).queued = _
    rw [Session.queued_push, h.queued, more, List.map_append, List.append_assoc]
    rfl

/-- With room in the queue of the writer, a step of the stream is one of its task or forwarder. -/
theorem step_tracked (conn : Nat) (h : Tracks id t base s session) (moved : s.step state a = some s')
    (ok : s.Delivered a) (room : session.pending < Ipc.writeQueueDepth) :
    ∃ session', session.step conn d (a.toSession t) = some (d, session') ∧
      Tracks id t base s' session' := by
  have task := h.task
  have writable := h.writable
  cases move_of_step moved with
  -- A check goes into the channel, or is dropped because the forwarder is gone.
  | push made todo c hb =>
    refine ⟨_, ?_, h.moved rfl⟩
    simp only [toTask, hb] at task
    by_cases full : s.finished = true ∨ Ipc.checkChannelDepth ≤ s.channel.length
    · simp [Act.toSession, Session.step, Session.runTask, task, Ipc.bodyStep, toTask, full]
    · simp [Act.toSession, Session.step, Session.runTask, task, Ipc.bodyStep, toTask, full]
  | return_ made hb =>
    refine ⟨_, ?_, h.moved rfl⟩
    simp only [toTask, hb] at task
    simp [Act.toSession, Session.step, Session.runTask, task, Ipc.bodyStep, toTask]
  | recv c rest hf hh hc =>
    refine ⟨_, ?_, h.moved rfl⟩
    simp only [toTask, hf, hh, hc] at task
    simp [Act.toSession, Session.step, Session.runForwarder, task, toTask, hf]
  | reply c hf hh =>
    refine ⟨_, ?_, h.sent (.check c) rfl⟩
    simp only [toTask, hf, hh] at task
    simp [Act.toSession, Session.step, Session.runForwarder, task, toTask, hf, writable,
      Session.send, room, frame]
  -- No reply fails while the client is there.
  | lost c hf hh => exact absurd ok (by simp [Delivered])
  | exit hf hh hc ht =>
    refine ⟨_, ?_, h.moved rfl⟩
    simp only [toTask, hf, hh, hc, ht] at task
    simp [Act.toSession, Session.step, Session.runForwarder, task, toTask, hh, hc, ht]
  | join response hb hf =>
    refine ⟨_, ?_, h.moved rfl⟩
    simp only [toTask, hb, hf] at task
    simp [Act.toSession, Session.step, Session.runTask, task, Ipc.bodyStep, toTask, hf]
  | respond response n delivered hb =>
    obtain rfl : delivered = true := ok
    refine ⟨_, ?_, h.sent (.response response) rfl⟩
    simp only [toTask, hb] at task
    simp [Act.toSession, Session.step, Session.runTask, task, Ipc.bodyStep, toTask, writable,
      Session.send, room, frame]

variable (conn : Nat) (d : Ipc.Daemon)

/-- The task as `dispatch` spawned it comes to run the checks. -/
theorem walk_started (checks : List Check)
    (spawned : session.tasks[t]? = some (.spawned id .diagnose))
    (writable : session.writerOpen = true) : ∃ session',
      Session.Walk conn [] (d, session) (d, session') ∧
        Tracks id t session.queued (start checks) session' := by
  have lt : t < session.tasks.length := (List.getElem?_eq_some_iff.mp spawned).1
  let polled := session.setTask t { StreamTask.spawned id .diagnose with status := .polling }
  have poll : Session.step conn d session (.poll t) = some (d, polled) := by
    simp [Session.step, spawned, StreamTask.poll, StreamTask.spawned, polled]
  have task : polled.tasks[t]? = some { StreamTask.spawned id .diagnose with status := .polling } :=
    List.getElem?_set_self lt
  have go : Session.step conn d polled (.task t .go) =
      some (d, polled.setTask t ((start checks).toTask id)) := by
    simp [Session.step, Session.runTask, task, StreamTask.spawned, Ipc.bodyStep, toTask, start,
      Forwarder.spawned]
  refine ⟨polled.setTask t ((start checks).toTask id), ?_, ?_, writable, ?_⟩
  · exact .tail (.task t .go) (.tail (.poll t) (.refl _) trivial poll) trivial go
  · refine List.getElem?_set_self ?_
    show t < (session.tasks.set t _).length
    rw [List.length_set]
    exact lt
  · exact (List.append_nil _).symm

/-- A run of the stream is one of its task and its forwarder, the writer making room. -/
theorem walk_tracked (run : Run state s s') (h : Tracks id t base s session) : ∃ session',
    Session.Walk conn [] (d, session) (d, session') ∧ Tracks id t base s' session' := by
  induction run with
  | refl => exact ⟨session, .refl _, h⟩
  | tail a before ok moved ih =>
    obtain ⟨there, walk, tracks⟩ := ih
    let drained : Session := { there with pending := 0 }
    have still : Tracks id t base _ drained := ⟨tracks.task, tracks.writable, tracks.queued⟩
    have room : drained.pending < Ipc.writeQueueDepth := Nat.zero_lt_succ _
    have stepped : ∃ next, drained.step conn d (a.toSession t) = some (d, next) ∧
        Tracks id t base _ next :=
      step_tracked conn still moved ok room
    obtain ⟨next, step, tracks'⟩ := stepped
    refine ⟨next, ?_, tracks'⟩
    have fed : Session.Fed [] d drained (a.toSession t) := by
      cases a <;> trivial
    exact .tail (a.toSession t) (walk.trans (Session.walk_drained d there)) fed step

/-- The stream has returned: the task queues its `StreamEnd`. -/
theorem walk_ended (h : Tracks id t base s session) {n : Nat} (done : s.body = .done n) :
    ∃ session', Session.Walk conn [] (d, session) (d, session') ∧
      session'.queued = session.queued ++ [⟨id, .streamEnd (.done "diagnosis complete" n)⟩] := by
  let drained : Session := { session with pending := 0 }
  have task := h.task
  simp only [toTask, done] at task
  have step : Session.step conn d drained (.task t .go) =
      some (d, (drained.push ⟨id, .streamEnd (.done "diagnosis complete" n)⟩).setTask t
        { s.toTask id with pc := .removing }) := by
    simp [Session.step, Session.runTask, task, Session.send, toTask, drained, h.writable,
      Ipc.writeQueueDepth]
  refine ⟨_, .tail (.task t .go) (Session.walk_drained d session) trivial step, ?_⟩
  exact Session.queued_push drained _

end DiagnoseStream

open DiagnoseStream in
/-- Every run of `diagnose_stream` whose client keeps reading, in whatever order its task and its
    forwarder move, is one of the session's task: from the task as it was spawned to the frames of
    the stream in their order, and the `StreamEnd` with its count. -/
theorem diagnose_refines {state : DiagState} {checks : List Check} {s : DiagnoseStream}
    (run : DiagnoseStream.Run state (start checks) s) (session : Session) {t id : Nat}
    (spawned : session.tasks[t]? = some (.spawned id .diagnose))
    (writable : session.writerOpen = true) (conn : Nat) (d : Ipc.Daemon) :
    ∃ session', Session.Walk conn [] (d, session) (d, session') ∧
      session'.tasks[t]? = some (s.toTask id) ∧
      session'.queued = session.queued ++ s.frames.map (frame id) ∧
      ∀ n, s.body = .done n → ∃ finished, Session.Walk conn [] (d, session) (d, finished) ∧
        finished.queued = session.queued ++ s.frames.map (frame id) ++
          [⟨id, .streamEnd (.done "diagnosis complete" n)⟩] := by
  obtain ⟨first, walk, tracks⟩ := walk_started conn d checks spawned writable
  obtain ⟨session', walk', tracks'⟩ := walk_tracked conn d run tracks
  refine ⟨session', walk.trans walk', tracks'.task, tracks'.queued, ?_⟩
  intro n done
  obtain ⟨finished, walk'', queued⟩ := walk_ended conn d tracks' done
  refine ⟨finished, (walk.trans walk').trans walk'', ?_⟩
  rw [queued, tracks'.queued]

/-- A `Diagnose` of two checks: the second is made while the forwarder holds the first, and the
    body has made its response before the second is taken up. -/
theorem diagnose_refines_twoChecks : ∃ finished, finished.queued =
    [⟨7, .diagnose .check⟩, ⟨7, .diagnose .check⟩, ⟨7, .diagnose .response⟩,
      ⟨7, .streamEnd (.done "diagnosis complete" 3)⟩] ∧
    Session.Walk 0 []
      (.new, { Session.init with tasks := [.spawned 7 .diagnose] }) (.new, finished) := by
  have gathered : ∃ state, gather bareKernel {} = .ok state := ⟨_, rfl⟩
  obtain ⟨state, -⟩ := gathered
  let first : Check := { id := .tcpV4, key := "tcp.v4", title := "TCP connection over IPv4" }
  let second : Check := { id := .tcpV6, key := "tcp.v6", title := "TCP connection over IPv6" }
  let acts : List DiagnoseStream.Act :=
    [.push, .recv, .push, .reply true, .return_, .recv, .reply true, .exit, .join, .respond true]
  let s : DiagnoseStream :=
    { body := .done 3, channel := [], holding := none, sent := 2, txOpen := false
      finished := true
      frames := [.check first, .check second,
        .response (finish [first, second] (evaluate [first, second] state))] }
  have run : DiagnoseStream.Run state (DiagnoseStream.start [first, second]) s :=
    Runs.Steps.of_exec acts rfl
  obtain ⟨-, -, -, -, ended⟩ := diagnose_refines run
    { Session.init with tasks := [.spawned 7 .diagnose] } (t := 0) rfl rfl 0 .new
  obtain ⟨finished, walk, queued⟩ := ended 3 rfl
  exact ⟨finished, queued, walk⟩

end Netdiag.Diag
