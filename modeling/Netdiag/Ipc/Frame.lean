import Mathlib.Data.List.AList

namespace Netdiag.Ipc

/-!
# IPC — the frames a session exchanges

The part of `service.proto` a session reads or writes (`daemon/src/ipc/session.rs`).  Ids
are client-chosen 64-bit numbers, kept as `Nat`: a session only compares them.

* `ClientFrame` / `Request` — what a client sends; `Request.stream` groups the five
  streaming calls, `Request.unary` the nine that get one reply from a detached task.
* `ServerFrame` / `Reply` — what the daemon queues.  The payloads of responses and events
  are left out: no code of the session looks at them.
* `Reply.terminates` — which frames end which kind of call, after the call model at the
  top of `service.proto`.
-/

/-! ### Errors -/

/-- `ErrorCode` of `common.proto`. -/
inductive ErrorCode
  | unspecified
  | invalidArgument
  | unimplemented
  | kernel
  | permissionDenied
  | notFound
  | resourceExhausted
  | internal
  deriving DecidableEq, Repr

/-- `proto::Error`. -/
structure Error where
  code : ErrorCode
  message : String
  detail : String := ""
  deriving DecidableEq, Repr

namespace Error

/-- `Error::invalid`. -/
def invalid (message : String) : Error := { code := .invalidArgument, message }

/-- `Error::kernel`. -/
def kernel (message : String) : Error := { code := .kernel, message }

/-- `Error::not_found`. -/
def notFound (message : String) : Error := { code := .notFound, message }

/-- `Error::with_detail`. -/
def withDetail (e : Error) (detail : String) : Error := { e with detail }

end Error

/-! ### Client frames -/

/-- The unary calls `dispatch` hands to `spawn_unary`. -/
inductive UnaryCall
  | getSnapshot
  | getInterfaces
  | getRoutes
  | getRoutingRules
  | getNeighbors
  | getSockets
  | getAppNetworkState
  | routeLookup
  | pushFrameworkEvent
  deriving DecidableEq, Repr

/-- The stop conditions of a `StartCaptureRequest`; `0` means unlimited. -/
structure StartCaptureRequest where
  maxPackets : Nat
  maxBytes : Nat
  deriving DecidableEq, Repr

/-- The streaming calls `dispatch` hands to `spawn_stream`. -/
inductive StreamCall
  | diagnose
  | watchNetwork
  | watchRoutes
  | watchSockets
  | startCapture (request : StartCaptureRequest)
  deriving DecidableEq, Repr

/-- `client_frame::Body`. -/
inductive Request
  | hello
  | unary (call : UnaryCall)
  | stream (call : StreamCall)
  | stopCapture (captureId : Nat)
  | cancel (targetId : Nat)
  deriving DecidableEq, Repr

/-- `proto::ClientFrame`; an empty `oneof` is `body := none`. -/
structure ClientFrame where
  id : Nat
  body : Option Request
  deriving DecidableEq, Repr

/-- The frame makes a streaming call. -/
def ClientFrame.isStream (f : ClientFrame) : Bool :=
  match f.body with
  | some (.stream _) => true
  | _ => false

/-! ### Server frames -/

/-- `StreamOutcome`: how a streaming call ended.  It is also the content of the
    `StreamEnd` frame that `end_stream` builds from it. -/
structure StreamOutcome where
  reason : String
  itemsSent : Nat
  error : Option Error
  deriving DecidableEq, Repr

namespace StreamOutcome

/-- `StreamOutcome::done`. -/
def done (reason : String) (itemsSent : Nat) : StreamOutcome :=
  { reason, itemsSent, error := none }

/-- `StreamOutcome::failed`. -/
def failed (error : Error) (itemsSent : Nat) : StreamOutcome :=
  { reason := "error", itemsSent, error := some error }

end StreamOutcome

/-- `diagnose_progress::Payload`. -/
inductive DiagnoseProgress
  | check
  | response
  deriving DecidableEq, Repr

/-- `server_frame::Body`. -/
inductive Reply
  | error (e : Error)
  | hello
  | unary (call : UnaryCall)
  | diagnose (progress : DiagnoseProgress)
  | event
  | captureStarted (captureId : Nat)
  | packet (captureId : Nat)
  | captureStats (captureId : Nat)
  | captureFinished (captureId : Nat) (reason : String)
  | cancel (wasActive : Bool)
  | streamEnd (outcome : StreamOutcome)
  deriving DecidableEq, Repr

/-- `proto::ServerFrame`. -/
structure ServerFrame where
  id : Nat
  body : Reply
  deriving DecidableEq, Repr

/-! ### Which frames end a call -/

/-- The frame is a `StreamEnd`. -/
def Reply.isStreamEnd : Reply → Bool
  | .streamEnd _ => true
  | _ => false

/-- The frame ends a streaming call: `stream_end`, or the `error` that terminates any
    call. -/
def Reply.isTerminator : Reply → Bool
  | .streamEnd _ => true
  | .error _ => true
  | _ => false

/-- The frame ends the call made by `request`: the terminators for a streaming call, the
    single reply for every other. -/
def Reply.terminates (request : Option Request) (reply : Reply) : Bool :=
  match request with
  | some (.stream _) => reply.isTerminator
  | _ => true

@[simp] theorem Reply.isTerminator_streamEnd (o : StreamOutcome) :
    (Reply.streamEnd o).isTerminator = true := rfl

@[simp] theorem Reply.isTerminator_error (e : Error) : (Reply.error e).isTerminator = true := rfl

@[simp] theorem Reply.isStreamEnd_streamEnd (o : StreamOutcome) :
    (Reply.streamEnd o).isStreamEnd = true := rfl

@[simp] theorem Reply.isStreamEnd_error (e : Error) : (Reply.error e).isStreamEnd = false := rfl

theorem Reply.isTerminator_of_isStreamEnd {r : Reply} (h : r.isStreamEnd = true) :
    r.isTerminator = true := by
  cases r <;> simp_all [Reply.isStreamEnd]

end Netdiag.Ipc
