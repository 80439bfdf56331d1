import Mathlib.Algebra.Ring.Nat
import Netdiag.Lib.Runs
import Netdiag.Ipc.Frame

namespace Netdiag.Ipc

/-!
# IPC — the Rust client

`crates/netdiag-ipc/src/client.rs` as a step function.  One socket carries every call: a
caller files the sending half of its reply queue in `pending` under a fresh id, and
`read_loop` looks each incoming frame up there and hands it over.  A step is one task
getting past one await; callers, forwarders, consumers and the reader interleave freely.

* `ClientCall` — one `unary` or `stream` in progress, with the queue(s) it reads from;
  `ClientCall.step` — what its own task does.
* `ReaderPc` — where `read_loop` stands.
* `DaemonClient` — the connection; `step` — one step of it.
* `Effect` / `step_effect` — the inversion lemma: every step is one of these.

What the operating system decides (whether a write succeeds, which bytes arrive, when the
connection ends) is an input of the step.
-/

/-- Depth of a per-call reply queue (`REPLY_QUEUE_DEPTH`). -/
def replyQueueDepth : Nat := 256

/-- An `ErrorCode` as `{:?}` prints it. -/
def ErrorCode.debug : ErrorCode → String
  | .unspecified => "Unspecified"
  | .invalidArgument => "InvalidArgument"
  | .unimplemented => "Unimplemented"
  | .kernel => "Kernel"
  | .permissionDenied => "PermissionDenied"
  | .notFound => "NotFound"
  | .resourceExhausted => "ResourceExhausted"
  | .internal => "Internal"

/-- `check_error`. -/
def checkError (frame : ServerFrame) : Except String Unit :=
  match frame.body with
  | .error e => .error s!"{e.message} ({e.code.debug})"
  | _ => .ok ()

/-! ### One call -/

/-- Which function makes the call. -/
inductive CallKind
  | unary
  | stream
  deriving DecidableEq, Repr

/-- Where a call stands.  `forwarding`, `passing` and `closing` are the task `stream`
    spawns; by then its receiver is with the caller. -/
inductive CallPc
  /-- `pending.lock().await.insert(id, tx)`. -/
  | inserting
  /-- `self.send(..).await`. -/
  | sending
  /-- `rx.recv().await` of `unary`. -/
  | waiting
  /-- `pending.lock().await.remove(&id)` of `unary`. -/
  | removing (result : Except String ServerFrame)
  /-- `unary` has returned, or `stream` has returned an error. -/
  | returned (result : Except String ServerFrame)
  /-- `raw_rx.recv().await` of the forwarder. -/
  | forwarding
  /-- `tx.send(frame).await` of the forwarder. -/
  | passing (frame : ServerFrame)
  /-- `pending.lock().await.remove(&id)` of the forwarder. -/
  | closing
  /-- The forwarder has returned: the caller's receiver is closed. -/
  | closed
  deriving DecidableEq

/-- A call.  `raw` is its reply queue, `out` the queue of the receiver `stream` returns and
    `held` says the caller still has that receiver.  Two fields only record history:
    `since`, how many frames had been read when it was filed in `pending`, and `got`,
    every frame that went into its reply queue. -/
structure ClientCall where
  kind : CallKind
  id : Nat
  body : Request
  pc : CallPc
  raw : List ServerFrame
  out : List ServerFrame
  held : Bool
  since : Nat
  got : List ServerFrame
  deriving DecidableEq

namespace ClientCall

/-- A call that has its id and its channel. -/
def new (kind : CallKind) (id : Nat) (body : Request) : ClientCall :=
  { kind, id, body, pc := .inserting, raw := [], out := [], held := true, since := 0, got := [] }

/-- The receiving half of the reply queue is dropped with the future that owns it. -/
def gone (call : ClientCall) : Bool :=
  match call.pc with
  | .returned _ => true
  | .closed => true
  | _ => false

/-- `stream` has handed out its receiver. -/
def handedOut (call : ClientCall) : Bool :=
  match call.pc with
  | .forwarding => true
  | .passing _ => true
  | .closing => true
  | .closed => true
  | _ => false

/-- The reply queue takes another frame. -/
def hasRoom (call : ClientCall) : Bool := call.raw.length < replyQueueDepth

/-- The request was written, or not: `unary` cleans up, `stream` returns on the spot. -/
def afterSend (call : ClientCall) (error : Option String) : CallPc :=
  match call.kind, error with
  | .unary, none => .waiting
  | .unary, some e => .removing (.error e)
  | .stream, none => .forwarding
  | .stream, some e => .returned (.error e)

/-- What `unary` and the forwarder do with a frame. -/
def onFrame (call : ClientCall) (frame : ServerFrame) : CallPc :=
  match call.kind with
  | .unary => .removing ((checkError frame).map (fun _ => frame))
  | .stream => if frame.body.isStreamEnd then .closing else .passing frame

/-- What `unary` and the forwarder do when `recv` returns `None`. -/
def onNone (call : ClientCall) : CallPc :=
  match call.kind with
  | .unary => .removing (.error "the connection closed before a reply arrived")
  | .stream => .closing

/-- What moves a call besides the shared state. -/
inductive Act
  /-- `send` returns; an error is given by its text. -/
  | send (error : Option String)
  /-- `recv` on the reply queue returns. -/
  | recv
  /-- The forwarder's `tx.send` returns. -/
  | pass
  /-- The caller takes a frame from its receiver. -/
  | take
  /-- The caller drops its receiver. -/
  | drop
  deriving DecidableEq, Repr

/-- The call waits in `recv` on its reply queue. -/
def receiving (call : ClientCall) : Bool :=
  match call.pc with
  | .waiting => true
  | .forwarding => true
  | _ => false

/-- A step of the call's own task.  `sender` says some sending half of its reply queue is
    left: `recv` on an empty queue returns `None` only when there is none. -/
def step (sender : Bool) (call : ClientCall) : Act → Option ClientCall
  | .send error =>
      if call.pc = .sending then some { call with pc := call.afterSend error } else none
  | .recv =>
      if call.receiving then
        match call.raw with
        | frame :: rest => some { call with raw := rest, pc := call.onFrame frame }
        | [] => if sender then none else some { call with pc := call.onNone }
      else none
  | .pass =>
      match call.pc with
      | .passing frame =>
          -- The caller dropped its receiver, and the forwarder sees it when it has a frame to pass
          -- on.
          if call.held = false then some { call with pc := .closing }
          else if call.out.length < replyQueueDepth then
            some { call with out := call.out ++ [frame], pc := .forwarding }
          else none
      | _ => none
  | .take =>
      match call.out with
      | _ :: rest => some { call with out := rest }
      | [] => none
  | .drop =>
      if call.handedOut then some { call with held := false, out := [] } else none

/-- Everything a call can do on its own. -/
inductive Move (sender : Bool) (call : ClientCall) : Act → ClientCall → Prop
  /-- The request was written, or not. -/
  | sent (error : Option String) (hpc : call.pc = .sending) :
      Move sender call (.send error) { call with pc := call.afterSend error }
  /-- It takes a frame from its reply queue. -/
  | got (f : ServerFrame) (rest : List ServerFrame) (hpc : call.receiving = true)
      (hraw : call.raw = f :: rest) :
      Move sender call .recv { call with raw := rest, pc := call.onFrame f }
  /-- Its reply queue is empty and has no sender left. -/
  | hungUp (hpc : call.receiving = true) (hraw : call.raw = []) (hsender : sender = false) :
      Move sender call .recv { call with pc := call.onNone }
  /-- The forwarder finds the caller's receiver dropped. -/
  | gaveUp (f : ServerFrame) (hpc : call.pc = .passing f) (hheld : call.held = false) :
      Move sender call .pass { call with pc := .closing }
  /-- The forwarder hands a frame on. -/
  | passed (f : ServerFrame) (hpc : call.pc = .passing f)
      (hroom : call.out.length < replyQueueDepth) :
      Move sender call .pass { call with out := call.out ++ [f], pc := .forwarding }
  /-- The caller uses its receiver. -/
  | used (act : Act) (out : List ServerFrame) (held : Bool) :
      Move sender call act { call with out, held }

/-- Inversion of a step of a call. -/
theorem step_move {sender : Bool} {call call' : ClientCall} {act : Act}
    (h : call.step sender act = some call') : Move sender call act call' := by
  cases act with
  | send error =>
    simp only [step] at h
    split at h
    · rename_i hpc; cases h; exact .sent error hpc
    · cases h
  | recv =>
    simp only [step] at h
    split at h
    -- With nothing to read, only a dropped sender ends the stream.
    · rename_i hpc
      split at h
      · rename_i f rest hraw; cases h; exact .got f rest hpc hraw
      · rename_i hraw
        split at h
        · cases h
        · rename_i hsender; cases h; exact .hungUp hpc hraw (by simpa using hsender)
    · cases h
  | pass =>
    simp only [step] at h
    split at h
    -- A receiver that was dropped ends the task, a full channel makes it wait.
    · rename_i f hpc
      split at h
      · rename_i hheld; cases h; exact .gaveUp f hpc hheld
      · split at h
        · rename_i hroom; cases h; exact .passed f hpc hroom
        · cases h
    · cases h
  | take =>
    simp only [step] at h
    split at h
    · rename_i rest _; cases h; exact .used _ rest call.held
    · cases h
  | drop =>
    simp only [step] at h
    split at h
    · cases h; exact .used _ [] false
    · cases h

/-- What a call is never changes. -/
theorem Move.fixed {sender : Bool} {call call' : ClientCall} {act : Act}
    (h : Move sender call act call') :
    call'.kind = call.kind ∧ call'.id = call.id ∧ call'.body = call.body ∧
      call'.since = call.since ∧ call'.got = call.got := by
  cases h <;> exact ⟨rfl, rfl, rfl, rfl, rfl⟩

/-- What `pending.lock().await.remove(&id)` is followed by. -/
def afterRemove (call : ClientCall) : Option CallPc :=
  match call.pc with
  | .removing result => some (.returned result)
  | .closing => some .closed
  | _ => none

end ClientCall

/-! ### The connection -/

/-- Where `read_loop` stands. -/
inductive ReaderPc
  /-- `codec::read_frame`. -/
  | reading
  /-- `pending.lock().await.get(&frame.id).cloned()`. -/
  | looking (frame : ServerFrame)
  /-- `sender.send(frame).await`, with the sender of call `i`. -/
  | delivering (frame : ServerFrame) (i : Nat)
  /-- `pending.lock().await.clear()`. -/
  | clearing
  /-- `read_loop` has returned. -/
  | exited
  deriving DecidableEq

/-- `DaemonClient` and its `read_loop`.  Calls are numbered in the order of their ids;
    `pending` maps an id to the call whose sender it holds.  `inbox` is what has arrived
    and is not read, `seen` the history of the frames that were. -/
structure DaemonClient where
  nextId : Nat
  pending : AList (fun _ : Nat => Nat)
  calls : List ClientCall
  inbox : List ServerFrame
  reader : ReaderPc
  seen : List ServerFrame

namespace DaemonClient

/-- `connect` before its `Hello`. -/
def init : DaemonClient :=
  { nextId := 1, pending := ∅, calls := [], inbox := [], reader := .reading, seen := [] }

/-- `connect` has returned the client: its `Hello` was answered by a `Hello`. -/
def connected (c : DaemonClient) : Bool :=
  match c.calls[0]? with
  | some call =>
    match call.pc with
    | .returned (.ok frame) => decide (frame.body = .hello)
    | _ => false
  | none => false

/-- The first call is the `Hello` of `connect`; nobody else has the client before that. -/
def mayCall (c : DaemonClient) (kind : CallKind) (body : Request) : Bool :=
  if c.calls.isEmpty then kind = .unary ∧ body = .hello else c.connected

/-- Overwrite a call. -/
def setCall (c : DaemonClient) (i : Nat) (call : ClientCall) : DaemonClient :=
  { c with calls := c.calls.set i call }

/-- A sending half of the reply queue of call `i` is left: in `pending`, or the clone the
    reader is sending with. -/
def senderLeft (c : DaemonClient) (i : Nat) (call : ClientCall) : Bool :=
  c.pending.lookup call.id = some i ||
    match c.reader with
    | .delivering _ j => i = j
    | _ => false

/-- Who moves, and with what from the environment. -/
inductive Action
  /-- `unary` or `stream` is called: `next_id.fetch_add(1)`. -/
  | call (kind : CallKind) (body : Request)
  /-- Call `i` gets past `pending.lock().await.insert(id, tx)`. -/
  | insert (i : Nat)
  /-- The task of call `i`, or its caller, moves. -/
  | task (i : Nat) (act : ClientCall.Act)
  /-- Call `i` gets past `pending.lock().await.remove(&id)`. -/
  | remove (i : Nat)
  /-- A frame reaches the socket. -/
  | arrive (frame : ServerFrame)
  /-- `read_frame` returns a frame. -/
  | read
  /-- `read_frame` returns the end of the stream, or an error. -/
  | readEnd
  /-- The reader gets past its lookup. -/
  | look
  /-- The reader gets past `sender.send(frame).await`. -/
  | deliver
  /-- The reader gets past `pending.lock().await.clear()`. -/
  | clear
  deriving DecidableEq

/-- One step of the client. -/
def step (c : DaemonClient) : Action → Option DaemonClient
  | .call kind body =>
      if c.mayCall kind body then
        some { c with nextId := (c.nextId + 1) % 2 ^ 64
                      calls := c.calls ++ [.new kind c.nextId body] }
      else none
  | .insert i =>
      match c.calls[i]? with
      | some call =>
        if call.pc = .inserting then
          some ({ c with pending := c.pending.insert call.id i }.setCall i
            { call with pc := .sending, since := c.seen.length })
        else none
      | none => none
  | .task i act =>
      match c.calls[i]? with
      | some call => (call.step (c.senderLeft i call) act).map (c.setCall i)
      | none => none
  | .remove i =>
      match c.calls[i]? with
      | some call =>
        call.afterRemove.map (fun pc =>
          { c with pending := c.pending.erase call.id }.setCall i { call with pc })
      | none => none
  | .arrive frame => some { c with inbox := c.inbox ++ [frame] }
  | .read =>
      match c.reader, c.inbox with
      | .reading, frame :: rest =>
          some { c with reader := .looking frame, inbox := rest, seen := c.seen ++ [frame] }
      | _, _ => none
  | .readEnd => if c.reader = .reading then some { c with reader := .clearing } else none
  | .look =>
      match c.reader with
      | .looking frame =>
        match c.pending.lookup frame.id with
        -- a late frame for a call already abandoned
        | none => some { c with reader := .reading }
        | some i => some { c with reader := .delivering frame i }
      | _ => none
  | .deliver =>
      match c.reader with
      | .delivering frame i =>
        match c.calls[i]? with
        | some call =>
          if call.gone then some { c with reader := .reading }
          else if call.hasRoom then
            some ({ c with reader := .reading }.setCall i
              { call with raw := call.raw ++ [frame], got := call.got ++ [frame] })
          else none
        | none => none
      | _ => none
  | .clear =>
      if c.reader = .clearing then some { c with pending := ∅, reader := .exited } else none

/-- A run of the client whose steps all meet `ok`. -/
abbrev Run (ok : DaemonClient → Action → Prop) (c : DaemonClient) : Prop :=
  Runs.Steps step ok init c

/-- The state of the client is reachable. -/
abbrev Reachable (c : DaemonClient) : Prop := Run (fun _ _ => True) c

/-- Executing a list of actions of the client gives a run. -/
theorem exists_run (ok : DaemonClient → Action → Prop) [∀ c a, Decidable (ok c a)]
    (as : List Action) (P : DaemonClient → Prop) [DecidablePred P]
    (h : (Runs.exec step ok init as).any (fun c => decide (P c)) = true) :
    ∃ c, Run ok c ∧ P c :=
  Runs.Steps.exists_of_exec as P h

/-- The actions of `connect`: its `Hello` is call 0. -/
def handshake : List Action :=
  [.call .unary .hello, .insert 0, .task 0 (.send none), .arrive ⟨1, .hello⟩, .read, .look,
    .deliver, .task 0 .recv, .remove 0]

/-! ### What a step can do -/

variable {c c' : DaemonClient} {a : Action}

/-- Everything a step of the client can do.  Each constructor gives the action, the state
    it needs and the state it leads to. -/
inductive Effect (c : DaemonClient) : Action → DaemonClient → Prop
  /-- A call gets its id. -/
  | called (kind : CallKind) (body : Request) (hmay : c.mayCall kind body = true) :
      Effect c (.call kind body)
        { c with nextId := (c.nextId + 1) % 2 ^ 64
                 calls := c.calls ++ [.new kind c.nextId body] }
  /-- A call files its sender. -/
  | inserted (i : Nat) (call : ClientCall) (hcall : c.calls[i]? = some call)
      (hpc : call.pc = .inserting) :
      Effect c (.insert i) ({ c with pending := c.pending.insert call.id i }.setCall i
        { call with pc := .sending, since := c.seen.length })
  /-- A call moves on its own. -/
  | moved (i : Nat) (act : ClientCall.Act) (call call' : ClientCall)
      (hcall : c.calls[i]? = some call)
      (hstep : call.step (c.senderLeft i call) act = some call') :
      Effect c (.task i act) (c.setCall i call')
  /-- A call takes its sender out. -/
  | removed (i : Nat) (call : ClientCall) (pc : CallPc) (hcall : c.calls[i]? = some call)
      (hpc : call.afterRemove = some pc) :
      Effect c (.remove i) ({ c with pending := c.pending.erase call.id }.setCall i
        { call with pc })
  /-- A frame reaches the socket. -/
  | arrived (f : ServerFrame) : Effect c (.arrive f) { c with inbox := c.inbox ++ [f] }
  /-- The reader reads a frame. -/
  | read (f : ServerFrame) (rest : List ServerFrame) (hreader : c.reader = .reading)
      (hinbox : c.inbox = f :: rest) :
      Effect c .read { c with reader := .looking f, inbox := rest, seen := c.seen ++ [f] }
  /-- The reader leaves its loop. -/
  | ended (hreader : c.reader = .reading) : Effect c .readEnd { c with reader := .clearing }
  /-- Nobody waits for the frame. -/
  | unknown (f : ServerFrame) (hreader : c.reader = .looking f)
      (hmiss : c.pending.lookup f.id = none) : Effect c .look { c with reader := .reading }
  /-- Call `i` waits for the frame. -/
  | found (f : ServerFrame) (i : Nat) (hreader : c.reader = .looking f)
      (hhit : c.pending.lookup f.id = some i) :
      Effect c .look { c with reader := .delivering f i }
  /-- The receiver is gone, and the frame with it. -/
  | lost (f : ServerFrame) (i : Nat) (call : ClientCall) (hreader : c.reader = .delivering f i)
      (hcall : c.calls[i]? = some call) (hgone : call.gone = true) :
      Effect c .deliver { c with reader := .reading }
  /-- The frame goes into the reply queue. -/
  | delivered (f : ServerFrame) (i : Nat) (call : ClientCall)
      (hreader : c.reader = .delivering f i) (hcall : c.calls[i]? = some call)
      (hgone : call.gone = false) (hroom : call.hasRoom = true) :
      Effect c .deliver ({ c with reader := .reading }.setCall i
        { call with raw := call.raw ++ [f], got := call.got ++ [f] })
  /-- The reader drops every sender and returns. -/
  | cleared (hreader : c.reader = .clearing) :
      Effect c .clear { c with pending := ∅, reader := .exited }

/-- The inversion lemma. -/
theorem step_effect (h : c.step a = some c') : Effect c a c' := by
  cases a with
  | call kind body =>
    simp only [step] at h
    split at h
    · rename_i hmay; cases h; exact .called kind body hmay
    · cases h
  | insert i =>
    simp only [step] at h
    split at h
    · rename_i call hcall
      split at h
      · rename_i hpc; cases h; exact .inserted i call hcall hpc
      · cases h
    · cases h
  | task i act =>
    simp only [step] at h
    split at h
    · rename_i call hcall
      obtain ⟨call', hstep, rfl⟩ := Option.map_eq_some_iff.mp h
      exact .moved i act call call' hcall hstep
    · cases h
  | remove i =>
    simp only [step] at h
    split at h
    · rename_i call hcall
      obtain ⟨pc, hpc, rfl⟩ := Option.map_eq_some_iff.mp h
      exact .removed i call pc hcall hpc
    · cases h
  | arrive f => cases h; exact .arrived f
  | read =>
    simp only [step] at h
    split at h
    · rename_i f rest hreader hinbox; cases h; exact .read f rest hreader hinbox
    · cases h
  | readEnd =>
    simp only [step] at h
    split at h
    · rename_i hreader; cases h; exact .ended hreader
    · cases h
  -- The table decides between an unknown id and a call.
  | look =>
    simp only [step] at h
    split at h
    · rename_i f hreader
      split at h
      · rename_i hmiss; cases h; exact .unknown f hreader hmiss
      · rename_i i hhit; cases h; exact .found f i hreader hhit
    · cases h
  -- A frame for a call that is gone is lost; one for a full buffer waits.
  | deliver =>
    simp only [step] at h
    split at h
    · rename_i f i hreader
      split at h
      · rename_i call hcall
        split at h
        · rename_i hgone; cases h; exact .lost f i call hreader hcall hgone
        · rename_i hgone
          split at h
          · rename_i hroom
            cases h
            exact .delivered f i call hreader hcall (by simpa using hgone) hroom
          · cases h
      · cases h
    · cases h
  | clear =>
    simp only [step] at h
    split at h
    · rename_i hreader; cases h; exact .cleared hreader
    · cases h

/-- An entry of `pending` was there before the step, or its call has just filed it. -/
theorem Effect.lookup (h : Effect c a c') {id i : Nat} (hl : c'.pending.lookup id = some i) :
    c.pending.lookup id = some i ∨
      (a = .insert i ∧ ∃ call, c.calls[i]? = some call ∧ call.id = id) := by
  cases h with
  | inserted k call hcall hpc =>
    by_cases hid : id = call.id
    · subst hid
      simp only [setCall, AList.lookup_insert, Option.some.injEq] at hl
      subst hl
      exact .inr ⟨rfl, call, hcall, rfl⟩
    · exact .inl (by simpa [setCall, AList.lookup_insert_ne hid] using hl)
  | removed k call pc hcall hpc =>
    by_cases hid : id = call.id
    · subst hid
      simp [setCall] at hl
    · exact .inl (by simpa [setCall, AList.lookup_erase_ne hid] using hl)
  | cleared hreader => simp at hl
  | called | moved | arrived | read | ended | unknown | found | lost | delivered => exact .inl hl

/-- What a step can do to call `i`. -/
inductive CallStep (c : DaemonClient) (i : Nat) (call : ClientCall) : ClientCall → Prop
  | same : CallStep c i call call
  | inserted (hpc : call.pc = .inserting) :
      CallStep c i call { call with pc := .sending, since := c.seen.length }
  | moved (act : ClientCall.Act) (call' : ClientCall)
      (hmove : ClientCall.Move (c.senderLeft i call) call act call') : CallStep c i call call'
  | removed (pc : CallPc) (hpc : call.afterRemove = some pc) : CallStep c i call { call with pc }
  | delivered (f : ServerFrame) (hreader : c.reader = .delivering f i) :
      CallStep c i call { call with raw := call.raw ++ [f], got := call.got ++ [f] }

theorem CallStep.fixed {i : Nat} {call call' : ClientCall} (h : CallStep c i call call') :
    call'.kind = call.kind ∧ call'.id = call.id ∧ call'.body = call.body := by
  cases h with
  | moved act call' hmove => exact ⟨hmove.fixed.1, hmove.fixed.2.1, hmove.fixed.2.2.1⟩
  | same | inserted | removed | delivered => exact ⟨rfl, rfl, rfl⟩

theorem CallStep.of_set {i j : Nat} {old new call' : ClientCall} (hold : c.calls[j]? = some old)
    (hget : (c.calls.set j new)[i]? = some call') (hstep : CallStep c j old new) :
    ∃ call, c.calls[i]? = some call ∧ CallStep c i call call' := by
  rcases Runs.set_cases hold hget with ⟨rfl, rfl⟩ | ⟨-, hget⟩
  · exact ⟨old, hold, hstep⟩
  · exact ⟨call', hget, .same⟩

/-- A call was there before the step, or it has just been made. -/
theorem Effect.call_of (h : Effect c a c') {i : Nat} {call' : ClientCall}
    (hcall' : c'.calls[i]? = some call') :
    (∃ call, c.calls[i]? = some call ∧ CallStep c i call call') ∨
      (i = c.calls.length ∧ ∃ kind body, a = .call kind body ∧ c.mayCall kind body = true ∧
        call' = .new kind c.nextId body) := by
  cases h with
  | called kind body hmay =>
    rcases Runs.push_cases hcall' with hold | ⟨hi, rfl⟩
    · exact .inl ⟨call', hold, .same⟩
    · exact .inr ⟨hi, kind, body, rfl, hmay, rfl⟩
  | inserted k old hold hpc => exact .inl (CallStep.of_set hold hcall' (.inserted hpc))
  | moved k act old new hold hstep =>
    exact .inl (CallStep.of_set hold hcall' (.moved act new (ClientCall.step_move hstep)))
  | removed k old pc hold hpc => exact .inl (CallStep.of_set hold hcall' (.removed pc hpc))
  | delivered f k old hreader hold hgone hroom =>
    exact .inl (CallStep.of_set hold hcall' (.delivered f hreader))
  | arrived | read | ended | unknown | found | lost | cleared =>
    exact .inl ⟨call', hcall', .same⟩

end DaemonClient

end Netdiag.Ipc
