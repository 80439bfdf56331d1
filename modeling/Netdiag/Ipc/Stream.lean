import Netdiag.Ipc.Frame
import Mathlib.Algebra.Ring.Nat

namespace Netdiag.Ipc

/-!
# IPC — stream tasks

The task `spawn_stream` starts for a streaming call (`daemon/src/ipc/session.rs`) and the
bodies it runs (`Daemon::diagnose_stream`, `watch_network`, `watch_routes`,
`watch_sockets`, `start_capture` in `daemon/src/daemon.rs`), cut at every point where
another thread can observe them: a frame is queued, a mutex is taken, a channel is used.

* `Daemon` — the state all connections share: the `captures` map, the capture counter and
  the stop flags.
* `Pc` / `Body` — where a stream's future stands; `Forwarder` — the task
  `diagnose_stream` spawns beside itself, which an abort does not reach.
* `bodyStep` — one step of a body, given what the environment answers (`Input`).
* `StreamTask.poll` / `yield` / `abort` — the runtime's side.  An abort is only a request:
  a parked task is dropped instead of being polled again, a task that is being polled
  right now runs on until its poll gives up the thread at an await.

Packets, events and checks are environment: each arrives as an `Input`.  A body that
panics is not modelled.
-/

/-! ### The daemon's shared state -/

/-- A stream task of some connection: the connection's number and the task's number in
    it.  It names the `Capture` that task opened, and so the stop flag in it. -/
structure TaskRef where
  conn : Nat
  task : Nat
  deriving DecidableEq, Repr

/-- The fields of `Daemon` the streams share.  `captures` maps a capture id to the stop
    flag of the capture; `stopFlags` lists the flags that have been stored to. -/
structure Daemon where
  captures : AList (fun _ : Nat => TaskRef)
  nextCaptureId : Nat
  stopFlags : List TaskRef

/-- `Daemon::new`. -/
def Daemon.new : Daemon := { captures := ∅, nextCaptureId := 1, stopFlags := [] }

/-- `Daemon::stop_capture`: raise the stop flag filed under `captureId`, if any. -/
def Daemon.stopCapture (d : Daemon) (captureId : Nat) : Daemon × Bool :=
  match d.captures.lookup captureId with
  | some flag => ({ d with stopFlags := flag :: d.stopFlags }, true)
  | none => (d, false)

/-- `Daemon::finish_capture`. -/
def Daemon.finishCapture (d : Daemon) (captureId : Nat) : Daemon :=
  { d with captures := d.captures.erase captureId }

/-! ### Where a stream's future stands -/

/-- Depth of the channel between `diag::run` and the forwarder. -/
def checkChannelDepth : Nat := 64

/-- The task `diagnose_stream` spawns to turn checks into frames.  `buffered` checks sit
    in the channel, `holding` says it has received one it has not queued yet, `txOpen` that
    `diag::run` can still send. -/
structure Forwarder where
  buffered : Nat
  holding : Bool
  txOpen : Bool
  sent : Nat
  finished : Bool
  deriving DecidableEq, Repr

/-- The forwarder as `diagnose_stream` spawns it. -/
def Forwarder.spawned : Forwarder :=
  { buffered := 0, holding := false, txOpen := true, sent := 0, finished := false }

/-- Nothing is left for the forwarder to queue. -/
def Forwarder.Quiet (f : Forwarder) : Prop :=
  f.finished = true ∨ (f.buffered = 0 ∧ f.holding = false)

instance (f : Forwarder) : Decidable f.Quiet :=
  inferInstanceAs (Decidable (_ ∨ _))

/-- The next await of a stream body, with the local variables still needed there. -/
inductive Body
  /-- Spawned, not polled yet. -/
  | start (call : StreamCall)
  /-- The loop of `watch_network`, `watch_routes` or `watch_sockets`. -/
  | watch (call : StreamCall) (sent : Nat)
  /-- `diag::run(..).await`. -/
  | diagnose
  /-- `forwarder.await`. -/
  | join
  /-- Queueing the final `Response`. -/
  | respond (checksSent : Nat)
  /-- `self.captures.lock().await.insert(..)`. -/
  | captureInsert (request : StartCaptureRequest) (captureId : Nat)
  /-- Queueing `CaptureStarted`. -/
  | captureAnnounce (request : StartCaptureRequest) (captureId : Nat)
  /-- The head of the capture loop. -/
  | captureLoop (request : StartCaptureRequest) (captureId sent bytes : Nat)
  /-- The `select!` between a packet and the deadline. -/
  | captureSelect (request : StartCaptureRequest) (captureId sent bytes : Nat)
  /-- Queueing a `Packet`. -/
  | capturePacket (request : StartCaptureRequest) (captureId sent bytes : Nat)
  /-- Queueing `CaptureStats`. -/
  | captureStats (captureId : Nat) (reason : String) (sent : Nat)
  /-- Queueing `CaptureFinished`. -/
  | captureFinished (captureId : Nat) (reason : String) (sent : Nat)
  /-- `self.finish_capture(capture_id).await`. -/
  | captureFinish (captureId : Nat) (outcome : StreamOutcome)
  deriving DecidableEq, Repr

/-- The next await of the task `spawn_stream` spawned. -/
inductive Pc
  /-- Inside `body(daemon, responder).await`. -/
  | body (b : Body)
  /-- `responder.end_stream(..).await`. -/
  | ending (outcome : StreamOutcome)
  /-- `registry.remove(id).await`: the `StreamEnd` has been queued. -/
  | removing
  deriving DecidableEq, Repr

/-- The runtime's view of a task. -/
inductive Status
  /-- Parked at an await (or never polled). -/
  | idle
  /-- A worker thread is polling it. -/
  | polling
  /-- The future returned. -/
  | finished
  /-- The future was dropped by an abort. -/
  | dropped
  deriving DecidableEq, Repr

/-- A task started by `spawn_stream`.  `captureId` records the capture id `start_capture`
    drew. -/
structure StreamTask where
  id : Nat
  pc : Pc
  status : Status
  abortRequested : Bool
  forwarder : Option Forwarder
  captureId : Option Nat
  deriving DecidableEq, Repr

namespace StreamTask

/-- The task as `tokio::spawn` leaves it. -/
def spawned (id : Nat) (call : StreamCall) : StreamTask :=
  { id, pc := .body (.start call), status := .idle, abortRequested := false,
    forwarder := none, captureId := none }

/-- The future has neither returned nor been dropped. -/
def Live (t : StreamTask) : Prop := t.status = .idle ∨ t.status = .polling

/-- Spawned, not finished and not aborted. -/
def Running (t : StreamTask) : Prop := t.Live ∧ t.abortRequested = false

/-- The task can queue no further frame of its own: its future is gone, or will be dropped
    before it is polled again, or only `registry.remove` is left. -/
def Mute (t : StreamTask) : Prop :=
  t.status = .finished ∨ t.status = .dropped ∨ (t.status = .idle ∧ t.abortRequested = true) ∨
    t.pc = .removing

/-- The forwarder, where there is one, has nothing left to queue. -/
def Drained (t : StreamTask) : Prop := ∀ f ∈ t.forwarder, f.Quiet

/-- Parked at an await, with its `StreamEnd` still to be queued. -/
def Parked (t : StreamTask) : Prop := t.status = .idle ∧ t.pc ≠ .removing

instance (t : StreamTask) : Decidable t.Live := inferInstanceAs (Decidable (_ ∨ _))
instance (t : StreamTask) : Decidable t.Running := inferInstanceAs (Decidable (_ ∧ _))
instance (t : StreamTask) : Decidable t.Mute := inferInstanceAs (Decidable (_ ∨ _))
instance (t : StreamTask) : Decidable t.Drained := inferInstanceAs (Decidable (∀ f ∈ _, _))
instance (t : StreamTask) : Decidable t.Parked := inferInstanceAs (Decidable (_ ∧ _))

/-! ### The runtime's side -/

/-- The future is dropped at the await it is parked at.  Its locals go with it; dropping
    `diag::run` closes the check channel, and the forwarder keeps running. -/
def drop (t : StreamTask) : StreamTask :=
  { t with status := .dropped,
           forwarder := t.forwarder.map (fun f => { f with txOpen := false }) }

/-- `AbortHandle::abort`: a request, without effect on a task that is already gone. -/
def abort (t : StreamTask) : StreamTask :=
  if t.Live then { t with abortRequested := true } else t

/-- The runtime takes a parked task up: an aborted one is dropped, any other polled. -/
def poll (t : StreamTask) : StreamTask :=
  if t.abortRequested then t.drop else { t with status := .polling }

/-- The poll gives up the thread at an await; only here does an abort of a running task
    take effect. -/
def yield (t : StreamTask) : StreamTask :=
  if t.abortRequested then t.drop else { t with status := .idle }

end StreamTask

/-! ### One step of a stream body -/

/-- What the environment answers at the await a body stands at. -/
inductive Input
  /-- The await is ready: the queue has room, the lock is free, the task is joined. -/
  | go
  /-- A watch loop has an event to forward; `counted` says the loop adds it to `sent`. -/
  | event (counted : Bool)
  /-- The event bus closed. -/
  | busClosed
  /-- Collecting the state to replay, or a socket dump, failed. -/
  | collectFailed (e : Error)
  /-- `diag::run` finished one more check. -/
  | check
  /-- `diag::run` returned. -/
  | checksDone
  /-- `Capture::open` returned. -/
  | opened (e : Option Error)
  /-- `next_packet` returned a packet of this wire length. -/
  | packet (originalLength : Nat)
  /-- The capture's deadline won the `select!`. -/
  | deadline
  /-- `next_packet` saw the stop flag. -/
  | stopped
  /-- `next_packet` failed. -/
  | readFailed (e : Error)
  deriving DecidableEq, Repr

/-- Does the body of `call` read the event bus (and so see it close)? -/
def StreamCall.readsBus : StreamCall → Bool
  | .watchNetwork => true
  | .watchRoutes => true
  | _ => false

/-- Does the body of `call` collect kernel state (and so see that fail)? -/
def StreamCall.collects : StreamCall → Bool
  | .watchNetwork => true
  | .watchSockets => true
  | _ => false

/-- What a body step does: the daemon and the task after it, and the frame it hands to
    `responder.reply`. -/
structure BodyResult where
  daemon : Daemon
  task : StreamTask
  reply : Option Reply

/-- One step of the body of task `ref`, which stands at `b`.  `sendOk` is the result
    `responder.reply` gives: `false` once the writer is gone.  `none` when the await is not
    ready for this input. -/
def bodyStep (ref : TaskRef) (d : Daemon) (sendOk : Bool) (t : StreamTask) (b : Body)
    (input : Input) : Option BodyResult :=
  let goto (b : Body) : BodyResult := ⟨d, { t with pc := .body b }, none⟩
  let send (r : Reply) (b : Body) : BodyResult := ⟨d, { t with pc := .body b }, some r⟩
  let return_ (o : StreamOutcome) : BodyResult := ⟨d, { t with pc := .ending o }, none⟩
  match b, input with
  -- the first poll of each body
  | .start .diagnose, .go =>
      some ⟨d, { t with pc := .body .diagnose, forwarder := some .spawned }, none⟩
  | .start (.startCapture request), .opened e =>
      -- the counter is drawn before `Capture::open` is tried
      let captureId := d.nextCaptureId
      let d' := { d with nextCaptureId := (d.nextCaptureId + 1) % 2 ^ 64 }
      match e with
      | none =>
          some ⟨d', { t with pc := .body (.captureInsert request captureId),
                             captureId := some captureId }, none⟩
      | some e =>
          some ⟨d', { t with pc := .ending (.failed e 0), captureId := some captureId }, none⟩
  | .start .watchNetwork, .go => some (goto (.watch .watchNetwork 0))
  | .start .watchRoutes, .go => some (goto (.watch .watchRoutes 0))
  | .start .watchSockets, .go => some (goto (.watch .watchSockets 0))
  -- `watch_network`, `watch_routes`, `watch_sockets`
  | .watch call sent, .event counted =>
      if sendOk then some (send .event (.watch call (if counted then sent + 1 else sent)))
      else some ⟨d, { t with pc := .ending (.done "client disconnected" sent) }, some .event⟩
  | .watch call sent, .busClosed =>
      if call.readsBus then some (return_ (.done "the event bus closed" sent)) else none
  | .watch call sent, .collectFailed e =>
      if call.collects then some (return_ (.failed e sent)) else none
  -- `diagnose_stream`
  | .diagnose, .check =>
      -- `try_send`: a full channel, or a forwarder that gave up, loses the check
      some ⟨d, { t with forwarder := t.forwarder.map (fun f =>
        if f.finished || checkChannelDepth ≤ f.buffered then f
        else { f with buffered := f.buffered + 1 }) }, none⟩
  | .diagnose, .checksDone =>
      some ⟨d, { t with pc := .body .join,
                        forwarder := t.forwarder.map (fun f => { f with txOpen := false }) }, none⟩
  | .join, .go =>
      match t.forwarder with
      | some f => if f.finished then some (goto (.respond f.sent)) else none
      | none => none
  | .respond checksSent, .go =>
      some ⟨d, { t with pc := .ending (.done "diagnosis complete" (checksSent + 1)) },
        some (.diagnose .response)⟩
  -- `start_capture`
  | .captureInsert request captureId, .go =>
      some ⟨{ d with captures := d.captures.insert captureId ref },
        { t with pc := .body (.captureAnnounce request captureId) }, none⟩
  | .captureAnnounce request captureId, .go =>
      if sendOk then some (send (.captureStarted captureId) (.captureLoop request captureId 0 0))
      else some (send (.captureStarted captureId)
        (.captureFinish captureId (.done "client disconnected" 0)))
  | .captureLoop request captureId sent bytes, .go =>
      if request.maxPackets ≠ 0 ∧ request.maxPackets ≤ sent then
        some (goto (.captureStats captureId "max_packets" sent))
      else if request.maxBytes ≠ 0 ∧ request.maxBytes ≤ bytes then
        some (goto (.captureStats captureId "max_bytes" sent))
      else some (goto (.captureSelect request captureId sent bytes))
  | .captureSelect request captureId sent bytes, .packet originalLength =>
      some (goto (.capturePacket request captureId sent (bytes + originalLength)))
  | .captureSelect _ captureId sent _, .deadline =>
      some (goto (.captureStats captureId "duration" sent))
  | .captureSelect _ captureId sent _, .stopped =>
      if ref ∈ d.stopFlags then some (goto (.captureStats captureId "stopped" sent)) else none
  | .captureSelect _ captureId sent _, .readFailed e =>
      some (goto (.captureFinish captureId (.failed e sent)))
  | .capturePacket request captureId sent bytes, .go =>
      if sendOk then
        some (send (.packet captureId) (.captureLoop request captureId (sent + 1) bytes))
      else some (send (.packet captureId) (.captureStats captureId "client disconnected" sent))
  | .captureStats captureId reason sent, .go =>
      some (send (.captureStats captureId) (.captureFinished captureId reason sent))
  | .captureFinished captureId reason sent, .go =>
      some (send (.captureFinished captureId reason)
        (.captureFinish captureId (.done ("capture finished: " ++ reason) sent)))
  | .captureFinish captureId outcome, .go =>
      some ⟨d.finishCapture captureId, { t with pc := .ending outcome }, none⟩
  | _, _ => none

end Netdiag.Ipc
