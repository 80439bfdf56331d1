import Netdiag.Lib.Runs
import Netdiag.Ipc.Stream

namespace Netdiag.Ipc

/-!
# IPC — one client connection

`daemon/src/ipc/session.rs` as a step function.  A session is a read loop, the stream and
unary tasks it spawned, and the writer that drains the outbound queue; every step below is
one of them getting past one await.  The steps of different tasks interleave freely: the
daemon runs on a multi-threaded runtime.

* `StreamRegistry` — the abort handles of the running streams, by request id.  That it
  never holds more than `maxStreams` handles is part of the type.
* `Session` — the state of a connection, with the `history` of frames read and queued.
* `LoopPc` — where the read loop of `serve` stands, `dispatch` and `spawn_stream` included.
* `step` — one step of a session and the daemon behind it; `Server` — any number of
  sessions over one daemon.
-/

/-! ### The stream registry -/

/-- Cap on concurrent streaming calls per connection (`MAX_STREAMS`). -/
def maxStreams : Nat := 16

/-- Depth of the per-connection outbound queue (`WRITE_QUEUE_DEPTH`). -/
def writeQueueDepth : Nat := 512

/-- `StreamRegistry`: request id to the abort handle of its task, given by the task's
    number. -/
structure StreamRegistry where
  streams : AList (fun _ : Nat => Nat)
  bounded : streams.keys.length ≤ maxStreams

namespace StreamRegistry

/-- `StreamRegistry::new`. -/
def new : StreamRegistry := ⟨∅, by simp⟩

/-- The handle filed under `id`. -/
def lookup (r : StreamRegistry) (id : Nat) : Option Nat := r.streams.lookup id

/-- `StreamRegistry::insert`: refused at the limit, even where it would replace an entry;
    otherwise it also returns the handle it replaced, which the source aborts. -/
def insert (r : StreamRegistry) (id handle : Nat) :
    Except Error (StreamRegistry × Option Nat) :=
  -- Also when the id is one of those registered.
  if h : maxStreams ≤ r.streams.keys.length then
    .error { code := .resourceExhausted,
             message := s!"too many concurrent streams (limit {maxStreams})" }
  else
    .ok (⟨r.streams.insert id handle, by
      rw [AList.keys_insert, List.length_cons]
      have := List.length_erase_le (a := id) (l := r.streams.keys)
      omega⟩, r.lookup id)

/-- `StreamRegistry::remove`. -/
def remove (r : StreamRegistry) (id : Nat) : StreamRegistry :=
  ⟨r.streams.erase id, by
    rw [AList.keys_erase]
    exact le_trans List.length_erase_le r.bounded⟩

/-- `StreamRegistry::cancel`: take the handle out and return it to be aborted. -/
def cancel (r : StreamRegistry) (id : Nat) : StreamRegistry × Option Nat :=
  (r.remove id, r.lookup id)

/-- The handles `StreamRegistry::abort_all` drains. -/
def handles (r : StreamRegistry) : List Nat := r.streams.entries.map (·.2)

@[simp] theorem lookup_new (id : Nat) : new.lookup id = none := rfl

theorem lookup_remove (r : StreamRegistry) (id id' : Nat) :
    (r.remove id).lookup id' = if id' = id then none else r.lookup id' := by
  show (r.streams.erase id).lookup id' = _
  split
  · rename_i h; rw [h, AList.lookup_erase]
  · rename_i h; exact AList.lookup_erase_ne h

/-- An entry that is still there after a removal. -/
theorem lookup_of_remove {r : StreamRegistry} {id id' t : Nat}
    (h : (r.remove id).lookup id' = some t) : id' ≠ id ∧ r.lookup id' = some t := by
  rw [lookup_remove] at h
  split at h
  · cases h
  · rename_i hne; exact ⟨hne, h⟩

theorem lookup_of_insert {r r' : StreamRegistry} {id handle : Nat} {previous : Option Nat}
    (h : r.insert id handle = .ok (r', previous)) (id' : Nat) :
    r'.lookup id' = if id' = id then some handle else r.lookup id' := by
  unfold insert at h
  split at h
  · cases h
  · cases h
    show (r.streams.insert id handle).lookup id' = _
    split
    -- The id itself, then any other.
    · rename_i h; rw [h, AList.lookup_insert]
    · rename_i h; exact AList.lookup_insert_ne h

theorem previous_of_insert {r r' : StreamRegistry} {id handle : Nat} {previous : Option Nat}
    (h : r.insert id handle = .ok (r', previous)) : previous = r.lookup id := by
  unfold insert at h
  split at h
  · cases h
  · cases h; rfl

theorem full_of_insert {r : StreamRegistry} {id handle : Nat} {e : Error}
    (h : r.insert id handle = .error e) : r.streams.keys.length = maxStreams := by
  unfold insert at h
  split at h
  · rename_i hfull; exact le_antisymm r.bounded hfull
  · cases h

theorem mem_handles {r : StreamRegistry} {t : Nat} :
    t ∈ r.handles ↔ ∃ id, r.lookup id = some t := by
  simp only [handles, List.mem_map]
  constructor
  · rintro ⟨⟨id, t'⟩, hmem, rfl⟩
    exact ⟨id, AList.mem_lookup_iff.mpr hmem⟩
  · rintro ⟨id, hl⟩
    exact ⟨⟨id, t⟩, AList.mem_lookup_iff.mp hl, rfl⟩

end StreamRegistry

/-! ### The state of a session -/

/-- What a session's history records. -/
inductive Event
  /-- The read loop read this frame. -/
  | received (frame : ClientFrame)
  /-- This frame went into the outbound queue. -/
  | queued (frame : ServerFrame)
  deriving DecidableEq, Repr

/-- What the read loop does when its replies are queued. -/
inductive After
  | read
  | teardown
  deriving DecidableEq, Repr

/-- Where the read loop of `serve` stands. -/
inductive LoopPc
  /-- `codec::read_frame`. -/
  | reading
  /-- Queueing these frames in order. -/
  | replying (frames : List ServerFrame) (after : After)
  /-- `registry.cancel(target_id).await` for a `Cancel`. -/
  | cancelling (id target : Nat)
  /-- `registry.insert(..).await` in `spawn_stream`: the task is already spawned. -/
  | inserting (id task : Nat)
  /-- The insert was refused: `task.abort()` and the error reply come next. -/
  | refused (id task : Nat) (error : Error)
  /-- `registry.cancel(capture_id).await` for a `StopCapture`. -/
  | stopping (id captureId : Nat)
  /-- `daemon.stop_capture(capture_id).await` for a `StopCapture`. -/
  | stoppingDaemon (id captureId : Nat)
  /-- `registry.abort_all().await`. -/
  | teardown
  /-- `serve` is past its loop. -/
  | closed
  deriving DecidableEq, Repr

/-- A call `spawn_unary` runs on its own task. -/
structure UnaryTask where
  id : Nat
  call : UnaryCall
  deriving DecidableEq, Repr

/-- A connection.  `history` is newest first; `pending` counts the queued frames the
    writer has not taken, `writerOpen` says the writer still takes them. -/
structure Session where
  history : List Event
  pending : Nat
  writerOpen : Bool
  registry : StreamRegistry
  tasks : List StreamTask
  unaries : List UnaryTask
  greeted : Bool
  handled : Nat
  loop : LoopPc

namespace Session

/-- `serve` before its first frame. -/
def init : Session :=
  { history := [], pending := 0, writerOpen := true, registry := .new, tasks := [],
    unaries := [], greeted := false, handled := 0, loop := .reading }

/-- Every frame ever queued on the connection, oldest first. -/
def queued (s : Session) : List ServerFrame :=
  (s.history.filterMap (fun e => match e with | .queued f => some f | .received _ => none)).reverse

/-- The frame goes into the outbound queue. -/
def push (s : Session) (frame : ServerFrame) : Session :=
  { s with history := .queued frame :: s.history, pending := s.pending + 1 }

/-- `Responder::send`: once the writer is gone the frame is lost; a full queue makes the
    sender wait. -/
def send (s : Session) (frame : ServerFrame) : Option Session :=
  if s.writerOpen = false then some s
  else if s.pending < writeQueueDepth then some (s.push frame)
  else none

/-- Overwrite a task. -/
def setTask (s : Session) (t : Nat) (task : StreamTask) : Session :=
  { s with tasks := s.tasks.set t task }

/-- `AbortHandle::abort` on a task of this session. -/
def abort (s : Session) (t : Nat) : Session :=
  { s with tasks := s.tasks.modify t StreamTask.abort }

/-- Abort the tasks of these handles. -/
def abortEach (s : Session) (handles : List Nat) : Session :=
  handles.foldl abort s

/-- Hand `frames` to the responder one after the other, then read on. -/
def answer (s : Session) (frames : List ServerFrame) : Session :=
  { s with loop := .replying frames .read }

/-! ### The read loop -/

/-- `spawn_unary`. -/
def spawnUnary (s : Session) (id : Nat) (call : UnaryCall) : Session :=
  { s with unaries := s.unaries ++ [⟨id, call⟩], loop := .reading }

/-- The first half of `spawn_stream`: the task is spawned before its handle is filed. -/
def spawnStream (s : Session) (id : Nat) (call : StreamCall) : Session :=
  { s with tasks := s.tasks ++ [StreamTask.spawned id call], loop := .inserting id s.tasks.length }

/-- `dispatch`. -/
def dispatch (s : Session) (id : Nat) : Request → Session
  | .unary call => s.spawnUnary id call
  | .stream call => s.spawnStream id call
  | .stopCapture captureId => { s with loop := .stopping id captureId }
  -- `receive` has answered these two.
  | .hello => s
  | .cancel _ => s

/-- The body of `serve`'s loop for a frame that was read. -/
def receive (s : Session) (frame : ClientFrame) : Session :=
  let s := { s with history := .received frame :: s.history }
  match frame.body with
  | none => s.answer [⟨frame.id, .error (.invalid "frame carries no request")⟩]
  | some body =>
    if frame.id = 0 then s.answer [⟨0, .error (.invalid "request id must not be zero")⟩]
    else
      let s := { s with handled := s.handled + 1 }
      match body with
      -- Greeted or not, `Hello` and `Cancel` are taken.
      | .hello => { s with greeted := true }.answer [⟨frame.id, .hello⟩]
      | .cancel targetId => { s with loop := .cancelling frame.id targetId }
      | body =>
        if s.greeted then s.dispatch frame.id body
        else s.answer [⟨frame.id, .error (.invalid
          "send Hello before any other request so versions can be checked")⟩]

/-- What `Cancel` answers. -/
def cancelReplies (id target : Nat) (wasActive : Bool) : List ServerFrame :=
  (if wasActive then [⟨target, .streamEnd (.done "cancelled by the client" 0)⟩] else [])
    ++ [⟨id, .cancel wasActive⟩]

/-- What `StopCapture` answers when it stopped something. -/
def stopReplies (id captureId : Nat) : List ServerFrame :=
  [⟨captureId, .streamEnd (.done "stopped by the client" 0)⟩,
    ⟨id, .captureFinished captureId "stopped"⟩]

/-- The read loop gets past the await it stands at (other than `read_frame`). -/
def loopStep (d : Daemon) (s : Session) : Option (Daemon × Session) :=
  match s.loop with
  | .reading => none
  | .replying [] .read => some (d, { s with loop := .reading })
  | .replying [] .teardown => some (d, { s with loop := .teardown })
  | .replying (f :: fs) after =>
      (s.send f).map (fun s => (d, { s with loop := .replying fs after }))
  | .cancelling id target =>
      match s.registry.cancel target with
      | (registry, some t) =>
          some (d, ({ s with registry }.abort t).answer (cancelReplies id target true))
      | (registry, none) => some (d, { s with registry }.answer (cancelReplies id target false))
  -- A stream that had the id before is aborted, without a frame for it.
  | .inserting id t =>
      match s.registry.insert id t with
      | .ok (registry, some previous) =>
          some (d, { s with registry, loop := .reading }.abort previous)
      | .ok (registry, none) => some (d, { s with registry, loop := .reading })
      | .error e => some (d, { s with loop := .refused id t e })
  -- The task has been running since it was spawned.
  | .refused id t e => some (d, (s.abort t).answer [⟨id, .error e⟩])
  -- The capture id is looked up among the request ids.
  | .stopping id captureId =>
      match s.registry.cancel captureId with
      | (registry, some t) =>
          some (d, ({ s with registry }.abort t).answer (stopReplies id captureId))
      | (registry, none) => some (d, { s with registry, loop := .stoppingDaemon id captureId })
  -- Then among the captures of all connections.
  | .stoppingDaemon id captureId =>
      match d.stopCapture captureId with
      | (d, true) => some (d, s.answer (stopReplies id captureId))
      | (d, false) =>
          some (d, s.answer [⟨id, .error (.notFound s!"no capture with id {captureId}")⟩])
  | .teardown =>
      some (d, { s with registry := .new, loop := .closed }.abortEach s.registry.handles)
  | .closed => none

/-! ### The tasks -/

/-- A step of the task `spawn_stream` spawned, while a worker polls it. -/
def runTask (conn : Nat) (d : Daemon) (s : Session) (t : Nat) (input : Input) :
    Option (Daemon × Session) :=
  match s.tasks[t]? with
  | none => none
  | some task =>
    if task.status ≠ .polling then none
    else match task.pc with
      | .body b =>
          match bodyStep ⟨conn, t⟩ d s.writerOpen task b input with
          | none => none
          | some ⟨d, task, none⟩ => some (d, s.setTask t task)
          | some ⟨d, task, some reply⟩ =>
              (s.send ⟨task.id, reply⟩).map (fun s => (d, s.setTask t task))
      | .ending outcome =>
          (s.send ⟨task.id, .streamEnd outcome⟩).map
            (fun s => (d, s.setTask t { task with pc := .removing }))
      -- By then the id may have been filed for another task.
      | .removing =>
          some (d, { s with registry := s.registry.remove task.id }.setTask t
            { task with status := .finished })

/-- What the forwarder of a `Diagnose` does next. -/
inductive ForwarderAct
  /-- `rx.recv().await` returns a check. -/
  | recv
  /-- Queue the check it holds. -/
  | reply
  /-- The channel is closed and empty. -/
  | exit
  deriving DecidableEq, Repr

/-- A step of the forwarder of task `t`. -/
def runForwarder (s : Session) (t : Nat) (act : ForwarderAct) : Option Session :=
  match s.tasks[t]? with
  | none => none
  | some task =>
    match task.forwarder with
    | none => none
    | some f =>
      let put (s : Session) (f : Forwarder) := s.setTask t { task with forwarder := some f }
      if f.finished then none
      else match act with
        | .recv =>
            if f.holding = false ∧ 0 < f.buffered then
              some (put s { f with buffered := f.buffered - 1, holding := true })
            else none
        | .reply =>
            if f.holding = false then none
            -- `reply` fails once the writer is gone, and ends the loop.
            else if s.writerOpen then
              (s.send ⟨task.id, .diagnose .check⟩).map
                (fun s => put s { f with holding := false, sent := f.sent + 1 })
            else some (put s { f with holding := false, finished := true })
        | .exit =>
            if f.holding = false ∧ f.buffered = 0 ∧ f.txOpen = false then
              some (put s { f with finished := true })
            else none

/-- A unary call returns: its task queues the response or the error. -/
def runUnary (s : Session) (u : Nat) (error : Option Error) : Option Session :=
  match s.unaries[u]? with
  | none => none
  | some call =>
    let reply : Reply := match error with
      | none => .unary call.call
      | some e => .error e
    (s.send ⟨call.id, reply⟩).map (fun s => { s with unaries := s.unaries.eraseIdx u })

/-! ### One step -/

/-- Who moves, and with what from the environment. -/
inductive Action
  /-- `read_frame` returns a frame. -/
  | receive (frame : ClientFrame)
  /-- `read_frame` fails. -/
  | malformed (detail : String)
  /-- The client closed its side. -/
  | disconnect
  /-- The read loop gets past its await. -/
  | loop
  /-- The runtime takes up the parked task `t`. -/
  | poll (t : Nat)
  /-- The running poll of task `t` ends at an await. -/
  | yield (t : Nat)
  /-- Task `t` gets past its await. -/
  | task (t : Nat) (input : Input)
  /-- The forwarder of task `t` moves. -/
  | forwarder (t : Nat) (act : ForwarderAct)
  /-- Unary call `u` returns. -/
  | unary (u : Nat) (error : Option Error)
  /-- The writer takes a frame off the queue. -/
  | writerTake
  /-- A write failed; the writer is gone. -/
  | writerClose
  deriving DecidableEq, Repr

/-- One step of connection `conn`. -/
def step (conn : Nat) (d : Daemon) (s : Session) : Action → Option (Daemon × Session)
  | .receive frame => if s.loop = .reading then some (d, s.receive frame) else none
  -- The stream cannot be read on from a broken frame.
  | .malformed detail =>
      if s.loop = .reading then
        let reply : ServerFrame := ⟨0, .error ((Error.invalid "malformed frame").withDetail detail)⟩
        some (d, { s with loop := .replying [reply] .teardown })
      else none
  | .disconnect => if s.loop = .reading then some (d, { s with loop := .teardown }) else none
  | .loop => s.loopStep d
  | .poll t =>
      match s.tasks[t]? with
      | some task => if task.status = .idle then some (d, s.setTask t task.poll) else none
      | none => none
  | .yield t =>
      match s.tasks[t]? with
      | some task => if task.status = .polling then some (d, s.setTask t task.yield) else none
      | none => none
  | .task t input => s.runTask conn d t input
  | .forwarder t act => (s.runForwarder t act).map (fun s => (d, s))
  | .unary u error => (s.runUnary u error).map (fun s => (d, s))
  | .writerTake => if 0 < s.pending then some (d, { s with pending := s.pending - 1 }) else none
  | .writerClose => some (d, { s with writerOpen := false })

/-- The frames the read loop is about to queue. -/
def replies (s : Session) : List ServerFrame :=
  match s.loop with
  | .replying frames _ => frames
  | _ => []

/-- The stream `dispatch` is working on: spawned, and its handle neither filed nor given
    up.  `none` when no dispatch is in progress. -/
def spawning (s : Session) : Option (Nat × Nat) :=
  match s.loop with
  | .inserting id t => some (id, t)
  | .refused id t _ => some (id, t)
  | _ => none

end Session

/-! ### The whole server -/

/-- Any number of connections over one daemon. -/
abbrev Server := Runs.World Nat Daemon Session

namespace Server

/-- No connection has sent anything yet. -/
def init : Server := { shared := Daemon.new, comp := fun _ => Session.init }

/-- One step of one connection. -/
def step : Server → Nat × Session.Action → Option Server := Runs.World.move Session.step

/-- A run of the server whose steps all meet `ok`. -/
abbrev Run (ok : Server → Nat × Session.Action → Prop) (w : Server) : Prop :=
  Runs.Steps step ok init w

/-- The daemon state is reachable. -/
abbrev Reachable (w : Server) : Prop := Run (fun _ _ => True) w

/-- The steps of connection `k` meet `P`; nothing is asked of the others. -/
def On (k : Nat) (P : Daemon → Session → Session.Action → Prop) (w : Server)
    (ka : Nat × Session.Action) : Prop :=
  ka.1 = k → P w.shared (w.comp k) ka.2

instance (k : Nat) (P : Daemon → Session → Session.Action → Prop)
    [∀ d s a, Decidable (P d s a)] (w : Server) (ka : Nat × Session.Action) :
    Decidable (On k P w ka) :=
  inferInstanceAs (Decidable (_ → _))

/-- Executing a list of actions of the server gives a run. -/
theorem exists_run (ok : Server → Nat × Session.Action → Prop) [∀ w ka, Decidable (ok w ka)]
    (as : List (Nat × Session.Action)) (P : Server → Prop) [DecidablePred P]
    (h : (Runs.exec step ok init as).any (fun w => decide (P w)) = true) :
    ∃ w, Run ok w ∧ P w :=
  Runs.Steps.exists_of_exec as P h

/-- The actions of a client that says hello on connection `k`. -/
def greeting (k : Nat) : List (Nat × Session.Action) :=
  [(k, .receive ⟨1, some .hello⟩), (k, .loop), (k, .loop)]

end Server

end Netdiag.Ipc
