import Netdiag.Lib.Runs

namespace Netdiag.App

/-!
# App — the streams a screen runs on the daemon

A screen of the app (`slint-app/src/app.rs`) that shows a stream spawns a task that awaits
`client.stream(..)`, stores the id it gets and receives frames until the channel closes; to
stop the stream it spawns `client.cancel(id)`.  This file is what lies below the screens:
the tasks up to the frames they receive, the connections, and the daemon's session at the
far end of each.

* `AppCall` — a task and the stream it has asked for; `Phase` — what the session has made
  of that request.
* `CancelCall` — a spawned `client.cancel(id)`.
* `Conn` — a connection: a client writes its requests in order and the session reads them
  in order, so a `Cancel` never overtakes the request of its stream.
* `Net` / `Net.step` — all of them, and one step.

The frames are of any type `F`; `valid` says which frame the daemon may send after which.
-/

variable {F : Type}

/-- What the session has made of a streaming call. -/
inductive Phase
  /-- The request is not written yet. -/
  | unsent
  /-- Written, and not read by the session. -/
  | requested
  /-- In the session's registry. -/
  | active
  /-- Refused, ended, cancelled or torn down. -/
  | over
  deriving DecidableEq, Repr

/-- Where the task of a streaming call stands. -/
inductive TaskPc
  /-- `client.stream(..).await`. -/
  | calling
  /-- It has the id and is about to store it. -/
  | opened
  /-- `rx.recv().await`. -/
  | receiving
  | returned
  deriving DecidableEq, Repr

/-- A task and its stream.  `sent` is the history of the frames the daemon has sent,
    `inbox` those of them the task has not received; `closed` says the channel ends
    after these. -/
structure AppCall (F : Type) where
  conn : Nat
  id : Nat
  pc : TaskPc
  phase : Phase
  sent : List F
  inbox : List F
  closed : Bool
  deriving DecidableEq

namespace AppCall

/-- A task that has just been spawned. -/
def new (conn : Nat) : AppCall F :=
  { conn, id := 0, pc := .calling, phase := .unsent, sent := [], inbox := [], closed := false }

/-- The session reads the request. -/
def register (call : AppCall F) (ok : Bool) : AppCall F :=
  if call.phase = .requested then { call with phase := if ok then .active else .over } else call

/-- The session takes the stream out of its registry, if it is there. -/
def cancel (call : AppCall F) (conn target : Nat) : AppCall F :=
  if call.conn = conn ∧ call.id = target ∧ call.phase = .active then { call with phase := .over }
  else call

/-- The session of connection `conn` is torn down. -/
def tearDown (call : AppCall F) (conn : Nat) : AppCall F :=
  if call.conn = conn ∧ call.phase ≠ .unsent then { call with phase := .over } else call

end AppCall

/-- Where a spawned `client.cancel(id)` stands. -/
inductive CancelPc
  | unsent
  | sent
  | done
  deriving DecidableEq, Repr

/-- A spawned `client.cancel(target)`. -/
structure CancelCall where
  conn : Nat
  target : Nat
  pc : CancelPc
  deriving DecidableEq, Repr

/-- What a client has written on its connection. -/
inductive Written
  /-- The request of call `t`. -/
  | start (t : Nat)
  /-- The `Cancel` of cancel call `j`. -/
  | cancel (j : Nat)
  /-- `shutdown` closed the writing half. -/
  | eof
  deriving DecidableEq, Repr

/-- A connection.  `wire` is what the session has not read; `closing` says `shutdown` is
    spawned, `shut` that it has run, and `lost` that the session is gone. -/
structure Conn where
  nextId : Nat
  wire : List Written
  closing : Bool
  shut : Bool
  lost : Bool
  deriving DecidableEq, Repr

namespace Conn

/-- A connection after its `Hello`, which was call 1. -/
def new : Conn := { nextId := 2, wire := [], closing := false, shut := false, lost := false }

/-- A write fails. -/
def dead (c : Conn) : Bool := c.shut || c.lost

end Conn

/-- The streaming calls of the app, its cancels and its connections. -/
structure Net (F : Type) where
  conns : List Conn
  calls : List (AppCall F)
  cancels : List CancelCall

namespace Net

/-- Nothing has been connected yet. -/
def init : Net F := { conns := [], calls := [], cancels := [] }

/-- A screen spawns a task that calls `client.stream(..)`. -/
def spawn (n : Net F) (conn : Nat) : Net F := { n with calls := n.calls ++ [.new conn] }

/-- A screen spawns `client.cancel(target)`. -/
def spawnCancel (n : Net F) (conn target : Nat) : Net F :=
  { n with cancels := n.cancels ++ [{ conn, target, pc := .unsent }] }

/-- `DaemonClient::connect` returns a client. -/
def connect (n : Net F) : Net F := { n with conns := n.conns ++ [.new] }

/-- `client.shutdown()` is spawned. -/
def disconnect (n : Net F) (c : Nat) : Net F :=
  { n with conns := n.conns.modify c (fun conn => { conn with closing := true }) }

/-- Who moves, and with what from the environment. -/
inductive Action (F : Type)
  /-- Another call on connection `c` takes an id. -/
  | other (c : Nat)
  /-- `client.stream(..).await` of task `t` returns, with an error or with the stream. -/
  | open (t : Nat) (ok : Bool)
  /-- Task `t` stores its id. -/
  | store (t : Nat)
  /-- `rx.recv().await` of task `t` returns. -/
  | recv (t : Nat)
  /-- Cancel call `j` writes its request. -/
  | send (j : Nat)
  /-- Cancel call `j` finds that the connection closed. -/
  | fail (j : Nat)
  /-- The `shutdown` of connection `c` runs. -/
  | shutdown (c : Nat)
  /-- The session of connection `c` reads the next request; `ok` says it takes a stream. -/
  | serve (c : Nat) (ok : Bool)
  /-- The daemon sends a frame of call `t`. -/
  | frame (t : Nat) (f : F)
  /-- The stream of call `t` ends by itself. -/
  | finish (t : Nat)
  /-- Connection `c` breaks. -/
  | reset (c : Nat)
  /-- The channel of call `t` closes. -/
  | close (t : Nat)
  deriving DecidableEq

/-- Overwrite a call. -/
def setCall (n : Net F) (t : Nat) (call : AppCall F) : Net F :=
  { n with calls := n.calls.set t call }

/-- Overwrite a connection. -/
def setConn (n : Net F) (c : Nat) (conn : Conn) : Net F :=
  { n with conns := n.conns.set c conn }

/-- Cancel call `j` returns. -/
def cancelDone (n : Net F) (j : Nat) : Net F :=
  { n with cancels := n.cancels.modify j (fun x => { x with pc := .done }) }

/-- `client.stream(..).await` returns. -/
def openCall (n : Net F) (t : Nat) (ok : Bool) : Option (Net F) :=
  match n.calls[t]? with
  | some call =>
    if call.pc = .calling then
      match n.conns[call.conn]? with
      | some conn =>
        -- The id is drawn and the request written.
        if ok && !conn.dead then
          some ((n.setConn call.conn { conn with nextId := conn.nextId + 1
                                                 wire := conn.wire ++ [.start t] }).setCall t
            { call with id := conn.nextId, pc := .opened, phase := .requested })
        -- `client.stream` failed, and the task returns without an id.
        else some (n.setCall t { call with pc := .returned, phase := .over })
      | none => none
    else none
  | none => none

/-- The session of connection `c` reads the next request. -/
def serve (n : Net F) (c : Nat) (ok : Bool) : Option (Net F) :=
  match n.conns[c]? with
  | some conn =>
    if conn.lost then none
    else match conn.wire with
      -- The request is filed with the registry, or refused.
      | .start t :: rest =>
          some { n.setConn c { conn with wire := rest } with
                 calls := n.calls.modify t (fun call => call.register ok) }
      -- A cancel ends the stream of its id, if there is one, and is answered either way.
      | .cancel j :: rest =>
          match n.cancels[j]? with
          | some x =>
              some { (n.setConn c { conn with wire := rest }).cancelDone j with
                     calls := n.calls.map (fun call => call.cancel c x.target) }
          | none => none
      -- The end of the connection takes all its streams down.
      | .eof :: rest =>
          some { n.setConn c { conn with wire := rest, lost := true } with
                 calls := n.calls.map (fun call => call.tearDown c) }
      | [] => none
  | none => none

/-- One step. -/
def step (valid : List F → F → Bool) (n : Net F) : Action F → Option (Net F)
  | .other c =>
      match n.conns[c]? with
      | some conn => some (n.setConn c { conn with nextId := conn.nextId + 1 })
      | none => none
  | .open t ok => n.openCall t ok
  | .store t =>
      match n.calls[t]? with
      | some call =>
        if call.pc = .opened then some (n.setCall t { call with pc := .receiving }) else none
      | none => none
  | .recv t =>
      match n.calls[t]? with
      | some call =>
        if call.pc = .receiving then
          match call.inbox with
          | _ :: rest => some (n.setCall t { call with inbox := rest })
          -- What was delivered is read before the end is seen.
          | [] => if call.closed then some (n.setCall t { call with pc := .returned }) else none
        else none
      | none => none
  | .send j =>
      match n.cancels[j]? with
      | some x =>
        if x.pc = .unsent then
          match n.conns[x.conn]? with
          | some conn =>
            -- The sender of a connection that is gone fails at once.
            if conn.dead then some (n.cancelDone j)
            else some { n.setConn x.conn { conn with nextId := conn.nextId + 1
                                                     wire := conn.wire ++ [.cancel j] } with
                        cancels := n.cancels.set j { x with pc := .sent } }
          | none => none
        else none
      | none => none
  | .fail j =>
      match n.cancels[j]? with
      | some x =>
        match n.conns[x.conn]? with
        -- No answer comes any more.
        | some conn => if x.pc = .sent ∧ conn.lost then some (n.cancelDone j) else none
        | none => none
      | none => none
  | .shutdown c =>
      match n.conns[c]? with
      | some conn =>
        -- The last handle of the client was dropped.
        if conn.closing ∧ conn.shut = false then
          some (n.setConn c { conn with shut := true, wire := conn.wire ++ [.eof] })
        else none
      | none => none
  | .serve c ok => n.serve c ok
  | .frame t f =>
      match n.calls[t]? with
      | some call =>
        if call.phase = .active ∧ valid call.sent f then
          some (n.setCall t { call with sent := call.sent ++ [f], inbox := call.inbox ++ [f] })
        else none
      | none => none
  | .finish t =>
      match n.calls[t]? with
      | some call =>
        if call.phase = .active then some (n.setCall t { call with phase := .over }) else none
      | none => none
  | .reset c =>
      match n.conns[c]? with
      | some conn =>
          some { n.setConn c { conn with lost := true, wire := [] } with
                 calls := n.calls.map (fun call => call.tearDown c) }
      | none => none
  | .close t =>
      match n.calls[t]? with
      | some call =>
        if call.phase = .over then some (n.setCall t { call with closed := true }) else none
      | none => none

/-! ### What a step can do -/

variable {valid : List F → F → Bool} {n n' : Net F} {a : Action F}

/-- Everything a step can do. -/
inductive Effect (valid : List F → F → Bool) (n : Net F) : Action F → Net F → Prop
  | counted (c : Nat) (conn : Conn) (hconn : n.conns[c]? = some conn) :
      Effect valid n (.other c) (n.setConn c { conn with nextId := conn.nextId + 1 })
  /-- The request of a call is written. -/
  | opened (t : Nat) (call : AppCall F) (conn : Conn) (hcall : n.calls[t]? = some call)
      (hpc : call.pc = .calling) (hconn : n.conns[call.conn]? = some conn)
      (hdead : conn.dead = false) :
      Effect valid n (.open t true)
        ((n.setConn call.conn { conn with nextId := conn.nextId + 1
                                          wire := conn.wire ++ [.start t] }).setCall t
          { call with id := conn.nextId, pc := .opened, phase := .requested })
  /-- `client.stream` returns an error. -/
  | refused (t : Nat) (ok : Bool) (call : AppCall F) (hcall : n.calls[t]? = some call)
      (hpc : call.pc = .calling) :
      Effect valid n (.open t ok) (n.setCall t { call with pc := .returned, phase := .over })
  | stored (t : Nat) (call : AppCall F) (hcall : n.calls[t]? = some call)
      (hpc : call.pc = .opened) :
      Effect valid n (.store t) (n.setCall t { call with pc := .receiving })
  | received (t : Nat) (call : AppCall F) (f : F) (rest : List F)
      (hcall : n.calls[t]? = some call) (hpc : call.pc = .receiving)
      (hinbox : call.inbox = f :: rest) :
      Effect valid n (.recv t) (n.setCall t { call with inbox := rest })
  | drained (t : Nat) (call : AppCall F) (hcall : n.calls[t]? = some call)
      (hpc : call.pc = .receiving) (hinbox : call.inbox = []) :
      Effect valid n (.recv t) (n.setCall t { call with pc := .returned })
  | sent (j : Nat) (x : CancelCall) (conn : Conn) (hx : n.cancels[j]? = some x)
      (hpc : x.pc = .unsent) (hconn : n.conns[x.conn]? = some conn) (hdead : conn.dead = false) :
      Effect valid n (.send j)
        { n.setConn x.conn { conn with nextId := conn.nextId + 1
                                       wire := conn.wire ++ [.cancel j] } with
          cancels := n.cancels.set j { x with pc := .sent } }
  /-- A cancel returns an error. -/
  | gaveUp (a : Action F) (j : Nat) (x : CancelCall) (conn : Conn)
      (hx : n.cancels[j]? = some x) (hconn : n.conns[x.conn]? = some conn)
      (hwhy : conn.lost = true ∨ (x.pc = .unsent ∧ conn.shut = true))
      (ha : a = .send j ∨ a = .fail j) : Effect valid n a (n.cancelDone j)
  | shut (c : Nat) (conn : Conn) (hconn : n.conns[c]? = some conn)
      (hclosing : conn.closing = true) (hopen : conn.shut = false) :
      Effect valid n (.shutdown c)
        (n.setConn c { conn with shut := true, wire := conn.wire ++ [.eof] })
  /-- The session reads the request of a call. -/
  | admitted (c : Nat) (ok : Bool) (conn : Conn) (t : Nat) (rest : List Written)
      (hconn : n.conns[c]? = some conn) (hwire : conn.wire = .start t :: rest) :
      Effect valid n (.serve c ok)
        { n.setConn c { conn with wire := rest } with
          calls := n.calls.modify t (fun call => call.register ok) }
  /-- The session reads a `Cancel`. -/
  | cancelled (c : Nat) (ok : Bool) (conn : Conn) (j : Nat) (x : CancelCall)
      (rest : List Written) (hconn : n.conns[c]? = some conn)
      (hwire : conn.wire = .cancel j :: rest) (hx : n.cancels[j]? = some x) :
      Effect valid n (.serve c ok)
        { (n.setConn c { conn with wire := rest }).cancelDone j with
          calls := n.calls.map (fun call => call.cancel c x.target) }
  /-- The session is gone. -/
  | hungUp (a : Action F) (c : Nat) (conn : Conn) (rest : List Written)
      (hconn : n.conns[c]? = some conn) (hrest : rest ⊆ conn.wire)
      (ha : (∃ ok, a = .serve c ok) ∨ a = .reset c) :
      Effect valid n a
        { n.setConn c { conn with wire := rest, lost := true } with
          calls := n.calls.map (fun call => call.tearDown c) }
  | framed (t : Nat) (f : F) (call : AppCall F) (hcall : n.calls[t]? = some call)
      (hphase : call.phase = .active) (hvalid : valid call.sent f = true) :
      Effect valid n (.frame t f)
        (n.setCall t { call with sent := call.sent ++ [f], inbox := call.inbox ++ [f] })
  | finished (t : Nat) (call : AppCall F) (hcall : n.calls[t]? = some call)
      (hphase : call.phase = .active) :
      Effect valid n (.finish t) (n.setCall t { call with phase := .over })
  | closed (t : Nat) (call : AppCall F) (hcall : n.calls[t]? = some call)
      (hphase : call.phase = .over) :
      Effect valid n (.close t) (n.setCall t { call with closed := true })

/-- Opening a call registers it, or finds its connection gone. -/
theorem openCall_effect {t : Nat} {ok : Bool} (h : n.openCall t ok = some n') :
    Effect valid n (.open t ok) n' := by
  unfold openCall at h
  split at h
  · rename_i call hcall
    split at h
    · rename_i hpc
      split at h
      · rename_i conn hconn
        split at h
        · rename_i hok
          cases h
          obtain ⟨rfl, hdead⟩ := by simpa using hok
          exact .opened t call conn hcall hpc hconn hdead
        · cases h; exact .refused t ok call hcall hpc
      · cases h
    · cases h
  · cases h

/-- The session reads the frames of a connection in their order. -/
theorem serve_effect {c : Nat} {ok : Bool} (h : n.serve c ok = some n') :
    Effect valid n (.serve c ok) n' := by
  unfold serve at h
  split at h
  · rename_i conn hconn
    split at h
    · cases h
    · split at h
      · rename_i t rest hwire
        cases h
        exact .admitted c ok conn t rest hconn hwire
      · rename_i j rest hwire
        split at h
        · rename_i x hx
          cases h
          exact .cancelled c ok conn j x rest hconn hwire hx
        · cases h
      · rename_i rest hwire
        cases h
        exact .hungUp _ c conn rest hconn (by simp [hwire]) (.inl ⟨ok, rfl⟩)
      · cases h
  · cases h

/-- The inversion lemma. -/
theorem step_effect (h : n.step valid a = some n') : Effect valid n a n' := by
  cases a with
  | other c =>
    simp only [step] at h
    split at h
    · rename_i conn hconn; cases h; exact .counted c conn hconn
    · cases h
  | «open» t ok => exact openCall_effect h
  | store t =>
    simp only [step] at h
    split at h
    · rename_i call hcall
      split at h
      · rename_i hpc; cases h; exact .stored t call hcall hpc
      · cases h
    · cases h
  -- A frame is taken from the inbox, or the end is seen once it is empty.
  | recv t =>
    simp only [step] at h
    split at h
    · rename_i call hcall
      split at h
      · rename_i hpc
        split at h
        · rename_i f rest hinbox; cases h; exact .received t call f rest hcall hpc hinbox
        · rename_i hinbox
          split at h
          · cases h; exact .drained t call hcall hpc hinbox
          · cases h
      · cases h
    · cases h
  -- A cancel gives up at a connection that is gone, and is written otherwise.
  | send j =>
    simp only [step] at h
    split at h
    · rename_i x hx
      split at h
      · rename_i hpc
        split at h
        · rename_i conn hconn
          split at h
          · rename_i hdead
            cases h
            refine .gaveUp _ j x conn hx hconn ?_ (.inl rfl)
            simp only [Conn.dead, Bool.or_eq_true] at hdead
            exact hdead.symm.imp_right (fun hshut => ⟨hpc, hshut⟩)
          · rename_i hdead
            cases h
            exact .sent j x conn hx hpc hconn (by simpa using hdead)
        · cases h
      · cases h
    · cases h
  | fail j =>
    simp only [step] at h
    split at h
    · rename_i x hx
      split at h
      · rename_i conn hconn
        split at h
        · rename_i hlost; cases h; exact .gaveUp _ j x conn hx hconn (.inl hlost.2) (.inr rfl)
        · cases h
      · cases h
    · cases h
  | shutdown c =>
    simp only [step] at h
    split at h
    · rename_i conn hconn
      split at h
      · rename_i hc; cases h; exact .shut c conn hconn hc.1 hc.2
      · cases h
    · cases h
  | serve c ok => exact serve_effect h
  -- What the daemon does to a call it serves.
  | frame t f =>
    simp only [step] at h
    split at h
    · rename_i call hcall
      split at h
      · rename_i hc; cases h; exact .framed t f call hcall hc.1 hc.2
      · cases h
    · cases h
  | finish t =>
    simp only [step] at h
    split at h
    · rename_i call hcall
      split at h
      · rename_i hphase; cases h; exact .finished t call hcall hphase
      · cases h
    · cases h
  | reset c =>
    simp only [step] at h
    split at h
    · rename_i conn hconn; cases h; exact .hungUp _ c conn [] hconn (by simp) (.inr rfl)
    · cases h
  | close t =>
    simp only [step] at h
    split at h
    · rename_i call hcall
      split at h
      · rename_i hphase; cases h; exact .closed t call hcall hphase
      · cases h
    · cases h

/-! ### Three views of a step -/

/-- What a step can do to a call, its frames apart. -/
structure Later (n : Net F) (call call' : AppCall F) : Prop where
  conn_eq : call'.conn = call.conn
  phase : (call'.phase = call.phase ∧ call'.id = call.id) ∨ call'.phase = .over ∨
    (call.phase = .requested ∧ call'.phase = .active) ∨
    (call.pc = .calling ∧ call'.phase = .requested ∧
      ∃ conn, n.conns[call.conn]? = some conn ∧ conn.dead = false)
  pc : call'.pc = call.pc ∨ call'.pc = .returned ∨ (call.pc = .calling ∧ call'.pc = .opened) ∨
    (call.pc = .opened ∧ call'.pc = .receiving)

/-- A call nothing happened to. -/
theorem Later.refl (call : AppCall F) : Later n call call := ⟨rfl, .inl ⟨rfl, rfl⟩, .inl rfl⟩

/-- Where one call is replaced, each call was there before. -/
theorem Later.of_set {t u : Nat} {old new call' : AppCall F} (hold : n.calls[u]? = some old)
    (hget : (n.calls.set u new)[t]? = some call') (hlater : Later n old new) :
    ∃ call, n.calls[t]? = some call ∧ Later n call call' := by
  rcases Runs.set_cases hold hget with ⟨rfl, rfl⟩ | ⟨-, hget⟩
  · exact ⟨old, hold, hlater⟩
  · exact ⟨call', hget, .refl call'⟩

/-- Where every call is changed, each call was there before. -/
theorem Later.of_map {t : Nat} {call' : AppCall F} {g : AppCall F → AppCall F}
    (hget : (n.calls.map g)[t]? = some call') (hlater : ∀ call, Later n call (g call)) :
    ∃ call, n.calls[t]? = some call ∧ Later n call call' := by
  rw [List.getElem?_map] at hget
  obtain ⟨call, hcall, rfl⟩ := Option.map_eq_some_iff.mp hget
  exact ⟨call, hcall, hlater call⟩

/-- A call that gets or does not get its id. -/
theorem later_register (call : AppCall F) (ok : Bool) : Later n call (call.register ok) := by
  unfold AppCall.register
  split
  · rename_i hphase
    refine ⟨rfl, .inr ?_, .inl rfl⟩
    cases ok
    · exact .inl rfl
    · exact .inr (.inl ⟨hphase, rfl⟩)
  · exact .refl call

/-- A call whose task is to be cancelled. -/
theorem later_cancel (call : AppCall F) (c target : Nat) : Later n call (call.cancel c target) := by
  unfold AppCall.cancel
  split
  · exact ⟨rfl, .inr (.inl rfl), .inl rfl⟩
  · exact .refl call

/-- A call whose connection is shut. -/
theorem later_tearDown (call : AppCall F) (c : Nat) : Later n call (call.tearDown c) := by
  unfold AppCall.tearDown
  split
  · exact ⟨rfl, .inr (.inl rfl), .inl rfl⟩
  · exact .refl call

/-- Every call was there before. -/
theorem Effect.call_of (h : Effect valid n a n') {t : Nat} {call' : AppCall F}
    (hcall' : n'.calls[t]? = some call') :
    ∃ call, n.calls[t]? = some call ∧ Later n call call' := by
  cases h with
  | counted | shut | sent | gaveUp => exact ⟨call', hcall', .refl call'⟩
  | opened u old conn hold hpc hconn hdead =>
    refine Later.of_set hold hcall' ⟨rfl, ?_, ?_⟩
    · exact .inr (.inr (.inr ⟨hpc, rfl, conn, hconn, hdead⟩))
    · exact .inr (.inr (.inl ⟨hpc, rfl⟩))
  | refused u ok old hold hpc =>
    exact Later.of_set hold hcall' ⟨rfl, .inr (.inl rfl), .inr (.inl rfl)⟩
  | stored u old hold hpc =>
    exact Later.of_set hold hcall' ⟨rfl, .inl ⟨rfl, rfl⟩, .inr (.inr (.inr ⟨hpc, rfl⟩))⟩
  | received u old f rest hold | framed u f old hold | closed u old hold =>
    exact Later.of_set hold hcall' ⟨rfl, .inl ⟨rfl, rfl⟩, .inl rfl⟩
  | drained u old hold hpc hinbox =>
    exact Later.of_set hold hcall' ⟨rfl, .inl ⟨rfl, rfl⟩, .inr (.inl rfl)⟩
  | finished u old hold hphase => exact Later.of_set hold hcall' ⟨rfl, .inr (.inl rfl), .inl rfl⟩
  -- The call whose start was read gets its id.
  | admitted c ok conn u rest hconn hwire =>
    have hget : (n.calls.modify u (fun call => call.register ok))[t]? = some call' := hcall'
    rw [List.getElem?_modify] at hget
    obtain ⟨call, hcall, rfl⟩ := Option.map_eq_some_iff.mp hget
    refine ⟨call, hcall, ?_⟩
    split
    · exact later_register call ok
    · exact .refl call
  | cancelled c ok conn j x rest hconn hwire hx =>
    exact Later.of_map hcall' (fun call => later_cancel call c x.target)
  | hungUp a c conn rest hconn => exact Later.of_map hcall' (fun call => later_tearDown call c)

/-- The session of connection `c` runs no stream and has none to start. -/
def Settled (n : Net F) (c : Nat) : Prop :=
  ∀ (t : Nat) call, n.calls[t]? = some call → call.conn = c →
    call.phase = .unsent ∨ call.phase = .over

/-- What a step can do to a connection. -/
structure ConnMove (n : Net F) (a : Action F) (n' : Net F) (c : Nat) (conn conn' : Conn) :
    Prop where
  closing : conn'.closing = conn.closing
  shut : conn'.shut = true → conn.shut = true ∨ (a = .shutdown c ∧ conn.closing = true)
  lost : conn'.lost = true → conn.lost = true ∨ n'.Settled c
  kept : conn.lost = true → conn'.lost = true
  cancel : ∀ j, .cancel j ∈ conn.wire → .cancel j ∈ conn'.wire ∨ conn'.lost = true ∨
    ∀ x, n'.cancels[j]? = some x → x.pc = .done
  written : ∀ j, .cancel j ∈ conn'.wire → .cancel j ∈ conn.wire ∨
    ∃ x, n.cancels[j]? = some x ∧ x.conn = c

/-- A connection nothing happened to. -/
theorem ConnMove.refl (c : Nat) (conn : Conn) : ConnMove n a n' c conn conn :=
  ⟨rfl, .inl, .inl, id, fun _ => .inl, fun _ => .inl⟩

/-- Where one connection is replaced, each was there before. -/
theorem ConnMove.of_set {c d : Nat} {old new conn' : Conn} (hold : n.conns[d]? = some old)
    (hget : (n.conns.set d new)[c]? = some conn') (hmove : ConnMove n a n' d old new) :
    ∃ conn, n.conns[c]? = some conn ∧ ConnMove n a n' c conn conn' := by
  rcases Runs.set_cases hold hget with ⟨rfl, rfl⟩ | ⟨-, hget⟩
  · exact ⟨old, hold, hmove⟩
  · exact ⟨conn', hget, .refl c conn'⟩

/-- The cancels after one of them returned. -/
theorem cancelDone_cases {j k : Nat} {x' : CancelCall}
    (h : (n.cancelDone j).cancels[k]? = some x') :
    (j = k ∧ ∃ x, n.cancels[k]? = some x ∧ x' = { x with pc := .done }) ∨
      (j ≠ k ∧ n.cancels[k]? = some x') := by
  simp only [cancelDone, List.getElem?_modify] at h
  obtain ⟨x, hx, rfl⟩ := Option.map_eq_some_iff.mp h
  by_cases hjk : j = k
  · exact .inl ⟨hjk, x, hx, by rw [if_pos hjk]⟩
  · exact .inr ⟨hjk, by rw [if_neg hjk, hx]⟩

/-- Every connection was there before. -/
theorem Effect.conn_of (h : Effect valid n a n') {c : Nat} {conn' : Conn}
    (hconn' : n'.conns[c]? = some conn') :
    ∃ conn, n.conns[c]? = some conn ∧ ConnMove n a n' c conn conn' := by
  cases h with
  | counted d old hold =>
    exact ConnMove.of_set hold hconn' ⟨rfl, .inl, .inl, id, fun _ => .inl, fun _ => .inl⟩
  | opened u call old hcall hpc hold =>
    exact ConnMove.of_set hold hconn' ⟨rfl, .inl, .inl, id,
      fun _ hj => .inl (List.mem_append_left _ hj), fun j hj => .inl (by simpa using hj)⟩
  | sent k x old hx hpc hold =>
    refine ConnMove.of_set hold hconn' ⟨rfl, .inl, .inl, id,
      fun _ hj => .inl (List.mem_append_left _ hj), fun j hj => ?_⟩
    rcases List.mem_append.mp hj with hj | hj
    · exact .inl hj
    · cases List.mem_singleton.mp hj
      exact .inr ⟨x, hx, rfl⟩
  | shut d old hold hclosing hopen =>
    exact ConnMove.of_set hold hconn' ⟨rfl, fun _ => .inr ⟨rfl, hclosing⟩, .inl, id,
      fun _ hj => .inl (List.mem_append_left _ hj), fun j hj => .inl (by simpa using hj)⟩
  | admitted d ok old u rest hold hwire =>
    refine ConnMove.of_set hold hconn'
      ⟨rfl, .inl, .inl, id, fun j hj => .inl ?_, fun j hj => .inl ?_⟩
    · simpa [hwire] using hj
    · simpa [hwire] using hj
  | cancelled d ok old k x rest hold hwire hx =>
    refine ConnMove.of_set hold hconn' ⟨rfl, .inl, .inl, id, fun j hj => ?_, fun j hj => .inl ?_⟩
    · -- the one that was read has returned
      rw [hwire] at hj
      rcases List.mem_cons.mp hj with hj | hj
      · cases hj
        refine .inr (.inr fun x' hx' => ?_)
        rcases cancelDone_cases hx' with ⟨-, x₀, -, rfl⟩ | ⟨hne, -⟩
        · rfl
        · exact absurd rfl hne
      · exact .inl hj
    · rw [hwire]
      exact .tail _ hj
  | hungUp a d old rest hold hrest =>
    refine ConnMove.of_set hold hconn' ⟨rfl, .inl, fun _ => .inr ?_, fun _ => rfl,
      fun _ _ => .inr (.inl rfl), fun j hj => .inl (hrest hj)⟩
    intro t call hcall hc
    have hget : (n.calls.map (fun call => call.tearDown d))[t]? = some call := hcall
    rw [List.getElem?_map] at hget
    obtain ⟨call₀, -, rfl⟩ := Option.map_eq_some_iff.mp hget
    unfold AppCall.tearDown at hc ⊢
    split
    · exact .inr rfl
    · simp_all
  | refused | stored | received | drained | gaveUp | framed | finished | closed =>
    exact ⟨conn', hconn', .refl c conn'⟩

/-- Every cancel was there before. -/
theorem Effect.cancel_of (h : Effect valid n a n') {j : Nat} {x' : CancelCall}
    (hx' : n'.cancels[j]? = some x') :
    ∃ x, n.cancels[j]? = some x ∧ x'.conn = x.conn ∧ x'.target = x.target ∧
      (x'.pc = x.pc ∨ x'.pc = .done ∨ (x'.pc = .sent ∧
        ∃ conn', n'.conns[x.conn]? = some conn' ∧ .cancel j ∈ conn'.wire)) := by
  cases h with
  | sent k old conn hold hpc hconn hdead =>
    rcases Runs.set_cases hold hx' with ⟨rfl, rfl⟩ | ⟨-, hx⟩
    · have hget := List.getElem?_set_self (a := { conn with
        nextId := conn.nextId + 1, wire := conn.wire ++ [.cancel k] })
        (List.getElem?_eq_some_iff.mp hconn).1
      exact ⟨old, hold, rfl, rfl, .inr (.inr ⟨rfl, _, hget, by simp⟩)⟩
    · exact ⟨x', hx, rfl, rfl, .inl rfl⟩
  | gaveUp a k old conn hold hconn hwhy =>
    rcases cancelDone_cases hx' with ⟨-, x, hx, rfl⟩ | ⟨-, hx⟩
    · exact ⟨x, hx, rfl, rfl, .inr (.inl rfl)⟩
    · exact ⟨x', hx, rfl, rfl, .inl rfl⟩
  | cancelled c ok conn k old rest hconn hwire hold =>
    rcases cancelDone_cases hx' with ⟨-, x, hx, rfl⟩ | ⟨-, hx⟩
    · exact ⟨x, hx, rfl, rfl, .inr (.inl rfl)⟩
    · exact ⟨x', hx, rfl, rfl, .inl rfl⟩
  | counted | opened | refused | stored | received | drained | shut | admitted | hungUp | framed
  | finished | closed => exact ⟨x', hx', rfl, rfl, .inl rfl⟩

/-- No connection and no cancel goes away. -/
theorem Effect.lengths (h : Effect valid n a n') :
    n'.conns.length = n.conns.length ∧ n'.cancels.length = n.cancels.length := by
  cases h <;> simp [setConn, setCall, cancelDone]

/-- Every connection is there after a step, with what the step did to it. -/
theorem Effect.conn_next (h : Effect valid n a n') {c : Nat} {conn : Conn}
    (hconn : n.conns[c]? = some conn) :
    ∃ conn', n'.conns[c]? = some conn' ∧ ConnMove n a n' c conn conn' :=
  Runs.exists_next h.lengths.1 (fun _ => h.conn_of) hconn

/-- Every cancel is there after a step, and meant for the same call. -/
theorem Effect.cancel_next (h : Effect valid n a n') {j : Nat} {x : CancelCall}
    (hx : n.cancels[j]? = some x) :
    ∃ x', n'.cancels[j]? = some x' ∧ x'.conn = x.conn ∧ x'.target = x.target := by
  obtain ⟨x', hx', hconn, htarget, -⟩ := Runs.exists_next h.lengths.2 (fun _ => h.cancel_of) hx
  exact ⟨x', hx', hconn, htarget⟩

/-- Why a cancel returns: its connection is gone, or it was read and its stream is gone. -/
theorem Effect.cancel_done (h : Effect valid n a n') {j : Nat} {x x' : CancelCall}
    (hx : n.cancels[j]? = some x) (hx' : n'.cancels[j]? = some x') (hpc : x.pc ≠ .done)
    (hdone : x'.pc = .done) (hwire : ∀ c conn, n.conns[c]? = some conn → .cancel j ∈ conn.wire →
      x.conn = c) :
    (∃ conn, n.conns[x.conn]? = some conn ∧
      (conn.lost = true ∨ (x.pc = .unsent ∧ conn.shut = true))) ∨
    ((∃ conn rest, n.conns[x.conn]? = some conn ∧ conn.wire = .cancel j :: rest) ∧
      ∀ (t : Nat) call', n'.calls[t]? = some call' → call'.conn = x.conn → call'.id = x.target →
        call'.phase ≠ .active) := by
  -- unless it is this cancel that returns, it stays what it was
  have hsame : n.cancels[j]? ≠ some x' := by
    intro hget
    rw [hx, Option.some.injEq] at hget
    subst hget
    exact hpc hdone
  cases h with
  | sent k old conn hold hpc' hconn hdead =>
    rcases Runs.set_cases hold hx' with ⟨-, rfl⟩ | ⟨-, hget⟩
    · cases hdone
    · exact absurd hget hsame
  | gaveUp a k old conn hold hconn hwhy =>
    rcases cancelDone_cases hx' with ⟨rfl, -⟩ | ⟨-, hget⟩
    · rw [hx, Option.some.injEq] at hold
      subst hold
      exact .inl ⟨conn, hconn, hwhy⟩
    · exact absurd hget hsame
  | cancelled c ok conn k old rest hconn hw hold =>
    rcases cancelDone_cases hx' with ⟨rfl, -⟩ | ⟨-, hget⟩
    · rw [hx, Option.some.injEq] at hold
      subst hold
      have hc : x.conn = c := hwire c conn hconn (by rw [hw]; exact .head rest)
      refine .inr ⟨⟨conn, rest, hc ▸ hconn, hw⟩, fun t call' hcall' hconn' hid' => ?_⟩
      have hget : (n.calls.map (fun call => call.cancel c x.target))[t]? = some call' := hcall'
      rw [List.getElem?_map] at hget
      obtain ⟨call, -, rfl⟩ := Option.map_eq_some_iff.mp hget
      unfold AppCall.cancel at hconn' hid' ⊢
      split
      · simp
      · rename_i hno
        simp only [if_neg hno] at hconn' hid'
        exact fun hactive => hno ⟨hconn'.trans hc, hid', hactive⟩
    · exact absurd hget hsame
  | counted | opened | refused | stored | received | drained | shut | admitted | hungUp | framed
  | finished | closed => exact absurd hx' hsame

/-! ### Frames -/

/-- What a step that is no `recv` can do to the frames of a call. -/
def FramesMove (valid : List F → F → Bool) (call call' : AppCall F) : Prop :=
  (call'.sent = call.sent ∧ call'.inbox = call.inbox) ∨
    ∃ f, valid call.sent f = true ∧ call'.sent = call.sent ++ [f] ∧
      call'.inbox = call.inbox ++ [f]

/-- Where one call is replaced, its frames move and those of the others stay. -/
theorem FramesMove.of_set {t u : Nat} {old new call' : AppCall F}
    (hold : n.calls[u]? = some old) (hget : (n.calls.set u new)[t]? = some call')
    (hmove : FramesMove valid old new) :
    ∃ call, n.calls[t]? = some call ∧ FramesMove valid call call' := by
  rcases Runs.set_cases hold hget with ⟨rfl, rfl⟩ | ⟨-, hget⟩
  · exact ⟨old, hold, hmove⟩
  · exact ⟨call', hget, .inl ⟨rfl, rfl⟩⟩

/-- Where every call is changed, frames stay where they are. -/
theorem FramesMove.of_map {t : Nat} {call' : AppCall F} {g : AppCall F → AppCall F}
    (hget : (n.calls.map g)[t]? = some call')
    (hmove : ∀ call, (g call).sent = call.sent ∧ (g call).inbox = call.inbox) :
    ∃ call, n.calls[t]? = some call ∧ FramesMove valid call call' := by
  rw [List.getElem?_map] at hget
  obtain ⟨call, hcall, rfl⟩ := Option.map_eq_some_iff.mp hget
  exact ⟨call, hcall, .inl (hmove call)⟩

/-- Only the daemon adds frames, in an order that is `valid`. -/
theorem Effect.frames (h : Effect valid n a n') (ha : ∀ t, a ≠ .recv t) {t : Nat}
    {call' : AppCall F} (hcall' : n'.calls[t]? = some call') :
    ∃ call, n.calls[t]? = some call ∧ FramesMove valid call call' := by
  cases h with
  | counted | shut | sent | gaveUp => exact ⟨call', hcall', .inl ⟨rfl, rfl⟩⟩
  | received u | drained u => exact absurd rfl (ha u)
  | opened u old conn hold | refused u ok old hold | stored u old hold | finished u old hold
  | closed u old hold => exact FramesMove.of_set hold hcall' (.inl ⟨rfl, rfl⟩)
  -- A frame is sent and put into the inbox in one step.
  | framed u f old hold hphase hvalid =>
    exact FramesMove.of_set hold hcall' (.inr ⟨f, hvalid, rfl, rfl⟩)
  | admitted c ok conn u rest hconn hwire =>
    have hget : (n.calls.modify u (fun call => call.register ok))[t]? = some call' := hcall'
    rw [List.getElem?_modify] at hget
    obtain ⟨call, hcall, rfl⟩ := Option.map_eq_some_iff.mp hget
    refine ⟨call, hcall, .inl ?_⟩
    unfold AppCall.register
    split
    · split <;> exact ⟨rfl, rfl⟩
    · exact ⟨rfl, rfl⟩
  | cancelled c ok conn j x rest hconn hwire hx =>
    refine FramesMove.of_map hcall' fun call => ?_
    unfold AppCall.cancel
    split <;> exact ⟨rfl, rfl⟩
  | hungUp a c conn rest hconn =>
    refine FramesMove.of_map hcall' fun call => ?_
    unfold AppCall.tearDown
    split <;> exact ⟨rfl, rfl⟩

/-- No task goes away, and none is new. -/
theorem Effect.length_calls (h : Effect valid n a n') : n'.calls.length = n.calls.length := by
  cases h <;> simp [setConn, setCall, cancelDone]

/-- What `recv` can do. -/
theorem recv_cases {t : Nat} (h : n.step valid (.recv t) = some n') :
    ∃ call, n.calls[t]? = some call ∧
      ((∃ f rest, call.inbox = f :: rest ∧ n' = n.setCall t { call with inbox := rest }) ∨
        (call.inbox = [] ∧ n' = n.setCall t { call with pc := .returned })) := by
  cases step_effect h with
  | received t call f rest hcall hpc hinbox => exact ⟨call, hcall, .inl ⟨f, rest, hinbox, rfl⟩⟩
  | drained t call hcall hpc hinbox => exact ⟨call, hcall, .inr ⟨hinbox, rfl⟩⟩
  | gaveUp a j x conn hx hconn hwhy ha => rcases ha with ha | ha <;> cases ha
  | hungUp a c conn rest hconn hrest ha => rcases ha with ⟨ok, ha⟩ | ha <;> cases ha

/-- What any step does to the frames of a call. -/
theorem step_frames (h : n.step valid a = some n') {t : Nat} {call' : AppCall F}
    (hcall' : n'.calls[t]? = some call') :
    ∃ call, n.calls[t]? = some call ∧ (FramesMove valid call call' ∨
      (a = .recv t ∧ call'.sent = call.sent ∧ ∃ f, call.inbox = f :: call'.inbox)) := by
  by_cases hrecv : ∃ u, a = .recv u
  · obtain ⟨u, rfl⟩ := hrecv
    obtain ⟨old, hold, ⟨f, rest, hinbox, rfl⟩ | ⟨-, rfl⟩⟩ := recv_cases h
    · rcases Runs.set_cases hold hcall' with ⟨rfl, rfl⟩ | ⟨-, hget⟩
      · exact ⟨old, hold, .inr ⟨rfl, rfl, f, hinbox⟩⟩
      · exact ⟨call', hget, .inl (.inl ⟨rfl, rfl⟩)⟩
    · obtain ⟨call, hcall, hmove⟩ := FramesMove.of_set hold hcall' (.inl ⟨rfl, rfl⟩)
      exact ⟨call, hcall, .inl hmove⟩
  · obtain ⟨call, hcall, hmove⟩ :=
      (step_effect h).frames (fun u hu => hrecv ⟨u, hu⟩) hcall'
    exact ⟨call, hcall, .inl hmove⟩

/-- What was sent on a stream stays sent. -/
theorem sent_mono (h : n.step valid a = some n') {t : Nat} {call : AppCall F}
    (hcall : n.calls[t]? = some call) :
    ∃ call', n'.calls[t]? = some call' ∧ call.sent ⊆ call'.sent := by
  obtain ⟨call', hcall', hframes⟩ :=
    Runs.exists_next (step_effect h).length_calls (fun _ => step_frames h) hcall
  refine ⟨call', hcall', ?_⟩
  rcases hframes with (⟨hsent, -⟩ | ⟨f, -, hsent, -⟩) | ⟨-, hsent, -⟩
  · rw [hsent]; exact fun _ hf => hf
  · rw [hsent]; exact List.subset_append_left _ _
  · rw [hsent]; exact fun _ hf => hf

end Net

end Netdiag.App
