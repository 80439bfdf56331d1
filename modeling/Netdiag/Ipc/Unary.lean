import Mathlib.Data.List.Perm.Basic
import Netdiag.Ipc.Answers
import Netdiag.Ipc.Captures

namespace Netdiag.Ipc

/-!
# IPC — calls with one reply

`Hello`, `Cancel` and the nine calls of `spawn_unary` get one frame each.  The reply is owed
from the moment the frame is read: by the read loop, or by a detached task that may outlive
the loop.

* `Session.Fed` — the steps of a connection whose client sends a given list of frames and then
  closes its side, or breaks the framing; the writer never fails.
* `Accounted` — the books: frames queued for a call plus frames owed to it.
* `Idle` — before the greeting there is no task and no request to the daemon.
* `Settled` / `exists_settled` — a connection that has read everything and has nothing left to
  do; every run can be continued to one.
* `Server.answered_once` — the two together.
-/

/-! ### Calls and their answers -/

/-- The request gets one reply: it is handled in the read loop or by `spawn_unary`. -/
def Request.isUnary : Request → Bool
  | .hello => true
  | .unary _ => true
  | .cancel _ => true
  | .stream _ => false
  | .stopCapture _ => false

/-- The frame makes such a request. -/
def ClientFrame.isUnary (f : ClientFrame) : Bool := (f.body.map Request.isUnary).getD false

/-- The frame greets the session. -/
def ClientFrame.isHello (f : ClientFrame) : Bool := f.body == some .hello && f.id != 0

/-- The frame an event read. -/
def Event.read : Event → Option ClientFrame
  | .received f => some f
  | .queued _ => none

/-- The frame answers call `i`.  A `StreamEnd` under that number belongs to a capture. -/
def isAnswer (i : Nat) (f : ServerFrame) : Bool := f.id == i && !f.body.isStreamEnd

/-- What the read loop still has to queue for call `i`. -/
def LoopPc.owed (i : Nat) : LoopPc → Nat
  | .replying frames _ => frames.countP (isAnswer i)
  | .cancelling id _ => if id = i then 1 else 0
  | _ => 0

/-- The call of another kind the read loop works on. -/
def LoopPc.working : LoopPc → Option Nat
  | .inserting id _ => some id
  | .refused id _ _ => some id
  | .stopping id _ => some id
  | .stoppingDaemon id _ => some id
  | _ => none

/-- The read loop is past its last frame. -/
def LoopPc.ending : LoopPc → Bool
  | .replying _ .teardown => true
  | .teardown => true
  | .closed => true
  | _ => false

namespace Session

variable {conn i : Nat} {d d' : Daemon} {s s' s₁ : Session} {a : Action}
  {sent : List ClientFrame}

/-- The frames read, oldest first. -/
def received (s : Session) : List ClientFrame := (s.history.filterMap Event.read).reverse

/-- The answers queued for call `i`. -/
def answers (s : Session) (i : Nat) : Nat := s.queued.countP (isAnswer i)

/-- The answers that are still to be queued for call `i`. -/
def owed (s : Session) (i : Nat) : Nat :=
  s.loop.owed i + s.unaries.countP (fun u => u.id == i)

/-- The steps of a connection whose client sends `sent` and then ends the stream. -/
def Fed (sent : List ClientFrame) (_ : Daemon) (s : Session) : Action → Prop
  | .receive f => s.received ++ [f] <+: sent
  | .malformed _ => s.received = sent
  | .disconnect => s.received = sent
  | .writerClose => False
  | _ => True

instance (sent : List ClientFrame) (d : Daemon) (s : Session) :
    DecidablePred (Fed sent d s)
  | .receive _ => inferInstanceAs (Decidable (_ <+: _))
  | .malformed _ => inferInstanceAs (Decidable (_ = _))
  | .disconnect => inferInstanceAs (Decidable (_ = _))
  | .writerClose => inferInstanceAs (Decidable False)
  | .loop | .poll _ | .yield _ | .task _ _ | .forwarder _ _ | .unary _ _ | .writerTake =>
    inferInstanceAs (Decidable True)

/-- A client that is there does not let its half of the connection be closed. -/
theorem Fed.ne_writerClose (h : Fed sent d s a) : a ≠ .writerClose := by
  rintro rfl
  exact h

/-! ### What the books see of a step -/

/-- Sending a frame is not receiving one. -/
theorem Sent.received_eq {f : ServerFrame} (h : Sent s f s₁) : s₁.received = s.received := by
  unfold received
  rcases h.history_eq with he | he
  · rw [he]
  · rw [he]
    rfl

/-- Only `read_frame` reads. -/
theorem Effect.received_eq (h : Effect d s a s') (ha : ∀ f, a ≠ .receive f) :
    s'.received = s.received := by
  cases h with
  | answered f => exact absurd rfl (ha f)
  | called f => exact absurd rfl (ha f)
  | spawned f => exact absurd rfl (ha f)
  | flushed f fs after s₁ hloop hsent => exact hsent.received_eq
  | inserted => simp [received]
  | tornDown => simp [received]
  | bodySent t task task' b r input s₁ htask hstatus hpc hmove hsent => exact hsent.received_eq
  | ended t task outcome input s₁ htask hstatus hpc hsent => exact hsent.received_eq
  | forwarderSent t task f f' act s₁ htask hf hfinished hbusy hsent => exact hsent.received_eq
  | unaryReplied u call error r s₁ hcall hkind hsent => exact hsent.received_eq
  | _ => rfl

/-- Only `read_frame` gives the read loop a stream or a `StopCapture` to work on. -/
theorem Effect.working_eq (h : Effect d s a s') (ha : ∀ f, a ≠ .receive f) {id : Nat}
    (hid : s'.loop.working = some id) : s.loop.working = some id := by
  cases h with
  | answered f => exact absurd rfl (ha f)
  | called f => exact absurd rfl (ha f)
  | spawned f => exact absurd rfl (ha f)
  | hangup a frames hloop hids loop hnext ha =>
    rcases hnext with rfl | rfl
    · cases hid
    · cases hid
  | answeredAll after loop hloop hnext =>
    rcases hnext with rfl | rfl
    · cases hid
    · cases hid
  -- These leave the loop with no call in hand.
  | inserted => simp [LoopPc.working] at hid
  | tornDown => simp [LoopPc.working] at hid
  | insertRefused id' t e hloop hinsert =>
    rw [hloop]
    exact hid
  | stopMissed id' captureId hloop hmiss =>
    rw [hloop]
    exact hid
  | bodySent t task task' b r input s₁ htask hstatus hpc hmove hsent => exact hsent.loop_eq ▸ hid
  | ended t task outcome input s₁ htask hstatus hpc hsent => exact hsent.loop_eq ▸ hid
  | forwarderSent t task f f' act s₁ htask hf hfinished hbusy hsent => exact hsent.loop_eq ▸ hid
  | unaryReplied u call error r s₁ hcall hkind hsent => exact hsent.loop_eq ▸ hid
  | polled | yielded | bodyMoved | removed | forwarderMoved | wrote => exact hid
  | flushed | cancelled | cancelMissed | refused | stopped | stoppedDaemon | stopFailed => cases hid

/-- Answers of call `i`, queued or owed. -/
def due (s : Session) (i : Nat) : Nat := s.answers i + s.owed i

/-- What is due depends on the queue, the unary tasks and the loop alone. -/
theorem due_of_eq (hqueued : s'.queued = s.queued) (hunaries : s'.unaries = s.unaries)
    (hloop : s'.loop.owed i = s.loop.owed i) : s'.due i = s.due i := by
  unfold due answers owed
  rw [hqueued, hunaries, hloop]

/-- A frame of another call makes no difference. -/
theorem Sent.due_eq {f : ServerFrame} (h : Sent s f s₁) (hid : f.id ≠ i) : s₁.due i = s.due i := by
  have hanswer : isAnswer i f = false := by simp [isAnswer, hid]
  unfold due answers owed
  rw [h.loop_eq, h.unaries_eq]
  rcases h.queued_eq with he | he
  · rw [he]
  · rw [he, List.countP_append, List.countP_cons_of_neg (by simp [hanswer]), List.countP_nil,
      Nat.add_zero]

/-- While the writer is there, a frame that is handed over is queued. -/
theorem send_open {f : ServerFrame} (hopen : s.writerOpen = true) (h : s.send f = some s') :
    s' = s.push f := by
  simp only [send, hopen, Bool.true_eq_false, if_false] at h
  split_ifs at h
  cases h
  rfl

/-- A pushed frame is the last in the queue. -/
theorem queued_push (s : Session) (f : ServerFrame) : (s.push f).queued = s.queued ++ [f] := by
  simp [queued, push]

/-- A pushed frame is one answer more if it is one for this id. -/
theorem answers_push (s : Session) (f : ServerFrame) (i : Nat) :
    (s.push f).answers i = s.answers i + if isAnswer i f then 1 else 0 := by
  unfold answers
  rw [queued_push, List.countP_append, List.countP_singleton]

/-- A reply of the read loop moves from what is owed to what is queued. -/
theorem due_flushed {f : ServerFrame} {fs : List ServerFrame} {after : After}
    (hloop : s.loop = .replying (f :: fs) after) :
    ({ s.push f with loop := .replying fs after } : Session).due i = s.due i := by
  have hanswers := answers_push s f i
  unfold due owed
  rw [hloop]
  show (s.push f).answers i + (fs.countP (isAnswer i) + s.unaries.countP _) =
    s.answers i + ((f :: fs).countP (isAnswer i) + _)
  rw [hanswers, List.countP_cons]
  omega

/-- So does the reply of a detached task. -/
theorem due_replied {u : Nat} {call : UnaryTask} {r : Reply} (hcall : s.unaries[u]? = some call)
    (hkind : r.isStreamEnd = false) :
    ({ s.push ⟨call.id, r⟩ with unaries := s.unaries.eraseIdx u } : Session).due i = s.due i := by
  have hanswers := answers_push s ⟨call.id, r⟩ i
  have hlt : u < s.unaries.length := (List.getElem?_eq_some_iff.mp hcall).1
  have hget : s.unaries[u] = call := (List.getElem?_eq_some_iff.mp hcall).2
  have hsplit : s.unaries.countP (fun u => u.id == i) =
      (s.unaries.eraseIdx u).countP (fun u => u.id == i) + if call.id == i then 1 else 0 := by
    rw [← (List.getElem_cons_eraseIdx_perm hlt).countP_eq, hget, List.countP_cons]
  unfold due owed
  show (s.push ⟨call.id, r⟩).answers i + (s.loop.owed i + (s.unaries.eraseIdx u).countP _) = _
  rw [hanswers, hsplit]
  simp only [isAnswer, hkind, Bool.not_false, Bool.and_true]
  omega

/-- **Bookkeeping.**  A step that reads no frame leaves what is due to call `i` as it is, if no
    stream and no `StopCapture` has that number. -/
theorem step_due (h : step conn d s a = some (d', s')) (hi : i ≠ 0)
    (ha : ∀ f, a ≠ .receive f) (hopen : s.writerOpen = true)
    (htasks : ∀ task ∈ s.tasks, task.id ≠ i) (hworking : s.loop.working ≠ some i) :
    s'.due i = s.due i := by
  have htask {t : Nat} {task : StreamTask} (ht : s.tasks[t]? = some task) : task.id ≠ i :=
    htasks task (List.mem_of_getElem? ht)
  have hwork {id : Nat} (hloop : s.loop.working = some id) : id ≠ i := by
    rintro rfl
    exact hworking hloop
  cases step_effect h with
  | answered f => exact absurd rfl (ha f)
  | called f => exact absurd rfl (ha f)
  | spawned f => exact absurd rfl (ha f)
  | hangup a frames hloop hids loop hnext ha =>
    refine due_of_eq rfl rfl ?_
    rw [hloop]
    rcases hnext with rfl | rfl
    · rfl
    · have hnone : frames.countP (isAnswer i) = 0 := by
        rw [List.countP_eq_zero]
        intro f hf
        simp [isAnswer, (hids f hf).1, Ne.symm hi]
      exact hnone
  | answeredAll after loop hloop hnext =>
    refine due_of_eq rfl rfl ?_
    rw [hloop]
    rcases hnext with rfl | rfl
    · rfl
    · rfl
  | flushed f fs after s₁ hloop hsent =>
    -- the effect does not say that the frame is queued; the step does
    obtain ⟨s₂, hs₂, he⟩ : ∃ s₂, s.send f = some s₂ ∧
        (d, { s₂ with loop := .replying fs after }) =
          (d', { s₁ with loop := .replying fs after }) := by
      simpa [step, loopStep, hloop] using h
    rw [Prod.mk.injEq] at he
    rw [← he.2, send_open hopen hs₂]
    exact due_flushed hloop
  | cancelled id target t hloop hhit =>
    refine due_of_eq rfl rfl ?_
    rw [hloop]
    show (cancelReplies id target true).countP (isAnswer i) = _
    simp [cancelReplies, isAnswer, LoopPc.owed, List.countP_cons, Reply.isStreamEnd]
  | cancelMissed id target hloop hmiss =>
    refine due_of_eq rfl rfl ?_
    rw [hloop]
    show (cancelReplies id target false).countP (isAnswer i) = _
    simp [cancelReplies, isAnswer, LoopPc.owed, List.countP_cons, Reply.isStreamEnd]
  | inserted id t registry previous hloop hinsert =>
    refine due_of_eq (queued_of_history (by simp)) (by simp) ?_
    rw [hloop]
    simp [LoopPc.owed]
  | insertRefused id t e hloop hinsert =>
    refine due_of_eq rfl rfl ?_
    rw [hloop]
    rfl
  | refused id t e hloop =>
    have hne : id ≠ i := hwork (by rw [hloop]; rfl)
    refine due_of_eq rfl rfl ?_
    rw [hloop]
    simp [answer, LoopPc.owed, isAnswer, hne]
  | stopped id captureId t hloop hhit =>
    have hne : id ≠ i := hwork (by rw [hloop]; rfl)
    refine due_of_eq rfl rfl ?_
    rw [hloop]
    simp [answer, LoopPc.owed, stopReplies, isAnswer, hne, Reply.isStreamEnd]
  | stopMissed id captureId hloop hmiss =>
    refine due_of_eq rfl rfl ?_
    rw [hloop]
    rfl
  | stoppedDaemon id captureId hloop hhit =>
    have hne : id ≠ i := hwork (by rw [hloop]; rfl)
    refine due_of_eq rfl rfl ?_
    rw [hloop]
    simp [answer, LoopPc.owed, stopReplies, isAnswer, hne, Reply.isStreamEnd]
  | stopFailed id captureId e hloop hmiss =>
    have hne : id ≠ i := hwork (by rw [hloop]; rfl)
    refine due_of_eq rfl rfl ?_
    rw [hloop]
    simp [answer, LoopPc.owed, isAnswer, hne]
  | tornDown hloop =>
    refine due_of_eq (queued_of_history (by simp)) (by simp) ?_
    rw [hloop]
    simp [LoopPc.owed]
  | polled | yielded | bodyMoved | removed | forwarderMoved | wrote => exact due_of_eq rfl rfl rfl
  | bodySent t task task' b r input s₁ ht hstatus hpc hmove hsent =>
    exact hsent.due_eq (htask ht)
  | ended t task outcome input s₁ ht hstatus hpc hsent => exact hsent.due_eq (htask ht)
  | forwarderSent t task f f' act s₁ ht hf hfinished hbusy hsent => exact hsent.due_eq (htask ht)
  | unaryReplied u call error r s₁ hcall hkind hsent =>
    obtain ⟨s₃, hrun, he₃⟩ := Option.map_eq_some_iff.mp h
    rw [Prod.mk.injEq] at he₃
    unfold runUnary at hrun
    rw [hcall] at hrun
    obtain ⟨s₂, hs₂, he₂⟩ := Option.map_eq_some_iff.mp hrun
    rw [← he₃.2, ← he₂, send_open hopen hs₂]
    refine due_replied hcall ?_
    cases error with
    | none => rfl
    | some e => rfl

/-! ### Reading a frame -/

variable {f g : ClientFrame}

/-- Everything the body of `serve`'s loop can do with a frame. -/
inductive Read (s : Session) (g : ClientFrame) : Session → Prop
  /-- The frame is answered on the spot; `Hello` among others. -/
  | answered (r : Reply) (greeted : Bool) (handled : Nat) (hkind : r.isStreamEnd = false)
      (hgreeted : greeted = s.greeted ∨ (greeted = true ∧ g.isHello = true)) :
      Read s g { s with history := .received g :: s.history, greeted, handled,
                        loop := .replying [⟨g.id, r⟩] .read }
  /-- A `Cancel` goes to the registry. -/
  | cancelling (target handled : Nat) (hbody : g.body = some (.cancel target)) :
      Read s g { s with history := .received g :: s.history, handled,
                        loop := .cancelling g.id target }
  /-- A unary call gets a task of its own. -/
  | unary (call : UnaryCall) (handled : Nat) (hbody : g.body = some (.unary call))
      (hgreeted : s.greeted = true) :
      Read s g { s with history := .received g :: s.history, handled,
                        unaries := s.unaries ++ [⟨g.id, call⟩], loop := .reading }
  /-- A streaming call gets a task that is to be registered. -/
  | stream (call : StreamCall) (handled : Nat) (hbody : g.body = some (.stream call))
      (hgreeted : s.greeted = true) :
      Read s g { s with history := .received g :: s.history, handled,
                        tasks := s.tasks ++ [.spawned g.id call],
                        loop := .inserting g.id s.tasks.length }
  /-- A `StopCapture` goes to the registry. -/
  | stopping (captureId handled : Nat) (hbody : g.body = some (.stopCapture captureId))
      (hgreeted : s.greeted = true) :
      Read s g { s with history := .received g :: s.history, handled,
                        loop := .stopping g.id captureId }

/-- A received frame is read as the loop reads it. -/
theorem receive_read (s : Session) (g : ClientFrame) : Read s g (s.receive g) := by
  have turnedAway (e : Error) (handled : Nat) :
      Read s g { s with history := .received g :: s.history, handled,
                        loop := .replying [⟨g.id, .error e⟩] .read } :=
    .answered (.error e) s.greeted handled rfl (.inl rfl)
  -- Three ways to be turned away: no body, id zero, not greeted.
  unfold receive
  cases hbody : g.body with
  | none => exact turnedAway _ s.handled
  | some body =>
    dsimp only
    by_cases hid : g.id = 0
    · rw [if_pos hid]
      have := turnedAway (.invalid "request id must not be zero") s.handled
      rw [hid] at this
      exact this
    · rw [if_neg hid]
      cases body with
      | hello =>
        refine .answered .hello true (s.handled + 1) rfl (.inr ⟨rfl, ?_⟩)
        simp [ClientFrame.isHello, hbody, hid]
      | cancel target => exact .cancelling target (s.handled + 1) hbody
      | unary call =>
        dsimp only
        split
        · rename_i hgreeted
          exact .unary call (s.handled + 1) hbody hgreeted
        · exact turnedAway _ (s.handled + 1)
      | stopCapture captureId =>
        dsimp only
        split
        · rename_i hgreeted
          exact .stopping captureId (s.handled + 1) hbody hgreeted
        · exact turnedAway _ (s.handled + 1)
      | stream call =>
        dsimp only
        split
        · rename_i hgreeted
          exact .stream call (s.handled + 1) hbody hgreeted
        · exact turnedAway _ (s.handled + 1)

/-- A step reads a frame, or it is none of `read_frame`'s. -/
theorem step_read (h : step conn d s a = some (d', s')) :
    (∃ g, a = .receive g ∧ s.loop = .reading ∧ Read s g s') ∨ ∀ g, a ≠ .receive g := by
  cases a with
  | receive g =>
    simp only [step] at h
    split_ifs at h with hloop
    cases h
    exact .inl ⟨g, rfl, hloop, receive_read s g⟩
  | _ => exact .inr (fun g hg => by cases hg)

/-- The frame read is one more received. -/
theorem Read.received_eq (h : Read s g s') : s'.received = s.received ++ [g] := by
  cases h <;> simp [received, Event.read]

/-- Reading a frame leaves the writer alone. -/
theorem Read.writerOpen_eq (h : Read s g s') : s'.writerOpen = s.writerOpen := by
  cases h <;> rfl

/-- Reading a frame queues nothing. -/
theorem Read.queued_eq (h : Read s g s') : s'.queued = s.queued := by
  cases h <;> exact queued_received s g

/-- What is due after a frame was read. -/
theorem Read.due_eq (h : Read s g s') (hloop : s.loop = .reading) {n : Nat}
    (hnew : s'.owed i = s.unaries.countP (fun u => u.id == i) + n) : s'.due i = s.due i + n := by
  have hreading : s.loop.owed i = 0 := by
    rw [hloop]
    rfl
  rw [due, due, hnew, answers, h.queued_eq, answers, owed, hreading]
  omega

/-- A frame of another call changes nothing for call `i`. -/
theorem Read.due_of_ne (h : Read s g s') (hloop : s.loop = .reading) (hid : g.id ≠ i) :
    s'.due i = s.due i := by
  refine h.due_eq (n := 0) hloop ?_
  cases h with
  | answered r greeted handled hkind hgreeted => simp [owed, LoopPc.owed, isAnswer, hid]
  | cancelling target handled hbody => simp [owed, LoopPc.owed, hid]
  | unary call handled hbody hgreeted => simp [owed, LoopPc.owed, hid]
  | stream call handled hbody hgreeted => simp [owed, LoopPc.owed]
  | stopping captureId handled hbody hgreeted => simp [owed, LoopPc.owed]

/-- **A call with one reply is owed one.** -/
theorem Read.due_self (h : Read s g s') (hloop : s.loop = .reading) (hunary : g.isUnary = true) :
    s'.due g.id = s.due g.id + 1 := by
  refine h.due_eq hloop ?_
  cases h with
  | answered r greeted handled hkind hgreeted =>
    simp [owed, LoopPc.owed, isAnswer, hkind, Nat.add_comm]
  | cancelling target handled hbody => simp [owed, LoopPc.owed, Nat.add_comm]
  | unary call handled hbody hgreeted => simp [owed, LoopPc.owed]
  | stream call handled hbody hgreeted =>
    simp [ClientFrame.isUnary, hbody, Request.isUnary] at hunary
  | stopping captureId handled hbody hgreeted =>
    simp [ClientFrame.isUnary, hbody, Request.isUnary] at hunary

/-- The read loop takes up streams and `StopCapture`s under the ids of their frames. -/
theorem Read.working_eq (h : Read s g s') {id : Nat} (hid : s'.loop.working = some id) :
    id = g.id ∧ g.isUnary = false := by
  cases h with
  | answered => cases hid
  | cancelling => cases hid
  | unary => cases hid
  | stream call handled hbody hgreeted =>
    exact ⟨(Option.some.inj hid).symm, by simp [ClientFrame.isUnary, hbody, Request.isUnary]⟩
  | stopping captureId handled hbody hgreeted =>
    exact ⟨(Option.some.inj hid).symm, by simp [ClientFrame.isUnary, hbody, Request.isUnary]⟩

/-- A new task has the id of the streaming call. -/
theorem Read.mem_tasks (h : Read s g s') {task : StreamTask} (ht : task ∈ s'.tasks) :
    task ∈ s.tasks ∨ (task.id = g.id ∧ g.isUnary = false) := by
  cases h with
  | stream call handled hbody hgreeted =>
    rcases List.mem_append.mp ht with ht | ht
    · exact .inl ht
    · rw [List.mem_singleton.mp ht]
      exact .inr ⟨rfl, by simp [ClientFrame.isUnary, hbody, Request.isUnary]⟩
  | answered | cancelling | unary | stopping => exact .inl ht

/-! ### A connection that is fed -/

/-- Every frame was read from `sent`, and the read loop ends with the last one. -/
structure Going (sent : List ClientFrame) (s : Session) : Prop where
  writer : s.writerOpen = true
  reads : s.received <+: sent
  ending : s.loop.ending = true → s.received = sent

/-- A new session has read nothing yet. -/
theorem Going.init (sent : List ClientFrame) : Going sent Session.init :=
  ⟨rfl, List.nil_prefix, by simp [Session.init, LoopPc.ending]⟩

/-- The read loop turns to its end when the stream does. -/
theorem loopStep_ending (h : s.loopStep d = some (d', s')) (hend : s'.loop.ending = true) :
    s.loop.ending = true := by
  cases hloop : s.loop with
  | reading => simp [loopStep, hloop] at h
  | teardown => rfl
  | closed => rfl
  | replying frames after =>
    cases after with
    | teardown => rfl
    | read =>
      cases frames with
      | nil =>
        simp only [loopStep, hloop] at h
        cases h
        cases hend
      | cons f fs =>
        simp only [loopStep, hloop] at h
        obtain ⟨s₁, -, he⟩ := Option.map_eq_some_iff.mp h
        cases he
        cases hend
  | refused id t e =>
    simp only [loopStep, hloop] at h
    cases h
    cases hend
  | cancelling | inserting | stopping | stoppingDaemon =>
    -- a lookup, and either way the loop goes on
    simp only [loopStep, hloop] at h
    split at h
    all_goals
      cases h
      cases hend

/-- A frame that is read does not end the loop. -/
theorem Read.ending_eq (h : Read s g s') : s'.loop.ending = false := by
  cases h <;> rfl

/-- **A fed connection keeps going**, up to the end of what it is sent. -/
theorem Going.step (hg : Going sent s) (hok : Fed sent d s a)
    (h : step conn d s a = some (d', s')) : Going sent s' := by
  -- One more frame is read, or what was read stays.
  rcases step_read h with ⟨g, rfl, -, hr⟩ | ha
  · refine ⟨hr.writerOpen_eq.trans hg.writer, ?_, ?_⟩
    · rw [hr.received_eq]
      exact hok
    · intro hend
      rw [hr.ending_eq] at hend
      cases hend
  · have hreceived := (step_effect h).received_eq ha
    have hflags := step_flags h ha hok.ne_writerClose
    refine ⟨(congrArg Prod.snd hflags).trans hg.writer, hreceived ▸ hg.reads, ?_⟩
    intro hend
    rw [hreceived]
    cases a with
    | receive f => exact absurd rfl (ha f)
    | malformed detail => exact hok
    | disconnect => exact hok
    | loop => exact hg.ending (loopStep_ending h hend)
    | _ =>
      have hcontrol := step_control h ha (by simp) (by simp) (by simp) hok.ne_writerClose
      have hloop : s'.loop = s.loop := congrArg Prod.snd hcontrol
      exact hg.ending (hloop ▸ hend)

/-! ### The books -/

/-- The books of call `f`: nothing is due before it is read, one answer from then on. -/
structure Accounted (f : ClientFrame) (s : Session) : Prop where
  tasks : ∀ task ∈ s.tasks, task.id ≠ f.id
  working : s.loop.working ≠ some f.id
  due : s.due f.id = if f ∈ s.received then 1 else 0

/-- Before a request has come nothing is due for it. -/
theorem Accounted.init (f : ClientFrame) : Accounted f Session.init :=
  ⟨by simp [Session.init], by simp [Session.init, LoopPc.working], by
    simp [Session.init, Session.due, answers, queued, owed, LoopPc.owed, received]⟩

/-- No step that reads nothing touches the books. -/
theorem Accounted.of_step (hacc : Accounted f s) (h : step conn d s a = some (d', s'))
    (ha : ∀ f, a ≠ .receive f) (hid : f.id ≠ 0) (hopen : s.writerOpen = true) :
    Accounted f s' := by
  have heffect := step_effect h
  refine ⟨?_, ?_, ?_⟩
  · intro task' ht
    obtain ⟨t, ht⟩ := List.mem_iff_getElem?.mp ht
    rcases heffect.origin t task' ht with ⟨task, hold, hlater⟩ | ⟨-, g, call, hread, -⟩
    · rw [hlater.id_eq]
      exact hacc.tasks task (List.mem_of_getElem? hold)
    · exact absurd hread (ha g)
  · intro hw
    exact hacc.working (heffect.working_eq ha hw)
  · rw [step_due h hid ha hopen hacc.tasks hacc.working, heffect.received_eq ha]
    exact hacc.due

/-- Reading the next frame of a client that uses each id once. -/
theorem Accounted.of_read (hacc : Accounted f s) (hr : Read s g s') (hloop : s.loop = .reading)
    (hids : (sent.map ClientFrame.id).Nodup) (hnext : s.received ++ [g] <+: sent)
    (hf : f ∈ sent) (hunary : f.isUnary = true) : Accounted f s' := by
  have hg : g ∈ sent := hnext.subset (by simp)
  have hsame (hid : g.id = f.id) : g = f := List.inj_on_of_nodup_map hids hg hf hid
  have hother (hkind : g.isUnary = false) : g.id ≠ f.id := by
    intro hid
    rw [hsame hid, hunary] at hkind
    cases hkind
  refine ⟨?_, ?_, ?_⟩
  · intro task ht
    rcases hr.mem_tasks ht with hold | ⟨hid, hkind⟩
    · exact hacc.tasks task hold
    · rw [hid]
      exact hother hkind
  · intro hw
    obtain ⟨hid, hkind⟩ := hr.working_eq hw
    exact hother hkind hid.symm
  · rw [hr.received_eq]
    by_cases hid : g.id = f.id
    · have hgf := hsame hid
      subst hgf
      -- an id that is used once was not read before
      have hfresh : g ∉ s.received := by
        have hnodup : (s.received ++ [g]).Nodup :=
          (List.Nodup.of_map _ hids).sublist hnext.sublist
        have := (List.nodup_append.mp hnodup).2.2
        intro hmem
        exact this g hmem g (by simp) rfl
      rw [hr.due_self hloop hunary, hacc.due, if_neg hfresh, if_pos (by simp)]
    · have hne : f ≠ g := by
        rintro rfl
        exact hid rfl
      rw [hr.due_of_ne hloop hid, hacc.due]
      simp [hne]

/-- **The books of a fed connection balance.** -/
theorem Accounted.step (hacc : Accounted f s) (hg : Going sent s) (hok : Fed sent d s a)
    (h : Session.step conn d s a = some (d', s')) (hids : (sent.map ClientFrame.id).Nodup)
    (hf : f ∈ sent) (hunary : f.isUnary = true) (hid : f.id ≠ 0) : Accounted f s' := by
  rcases step_read h with ⟨g, rfl, hloop, hr⟩ | ha
  · exact hacc.of_read hr hloop hids hok hf hunary
  · exact hacc.of_step h ha hid hg.writer

/-- One answer at most, and one when everything is read and nothing is owed. -/
theorem Accounted.answers_le (hacc : Accounted f s) : s.answers f.id ≤ 1 := by
  have hdue := hacc.due
  unfold Session.due at hdue
  split_ifs at hdue
  · omega
  · omega

/-! ### Before the greeting -/

/-- The session has started nothing and asks nothing of the daemon. -/
structure Idle (s : Session) : Prop where
  tasks : s.tasks = []
  unaries : s.unaries = []
  working : s.loop.working = none

/-- A session is idle until it is greeted, and greeted by a `Hello` only. -/
structure Reserved (s : Session) : Prop where
  idle : s.greeted = false → s.Idle
  greeted : s.greeted = true → ∃ f ∈ s.received, f.isHello = true

/-- A new session is idle, and was not greeted. -/
theorem Reserved.init : Reserved Session.init :=
  ⟨fun _ => ⟨rfl, rfl, rfl⟩, by simp [Session.init]⟩

/-- An idle session stays idle until it reads a frame. -/
theorem Idle.of_step (hidle : s.Idle) (h : Session.step conn d s a = some (d', s'))
    (ha : ∀ f, a ≠ .receive f) : s'.Idle := by
  have heffect := step_effect h
  refine ⟨?_, ?_, ?_⟩
  · apply List.eq_nil_iff_forall_not_mem.mpr
    intro task' ht
    obtain ⟨t, ht⟩ := List.mem_iff_getElem?.mp ht
    rcases heffect.origin t task' ht with ⟨task, hold, -⟩ | ⟨-, g, call, hread, -⟩
    · simp [hidle.tasks] at hold
    · exact absurd hread (ha g)
  · apply List.eq_nil_iff_forall_not_mem.mpr
    intro u hu
    rcases heffect.unaries hu with hold | ⟨g, hread, -⟩
    · simp [hidle.unaries] at hold
    · cases a with
      | receive f => exact ha f rfl
      | _ => cases hread
  · by_contra hne
    obtain ⟨id, hid⟩ := Option.ne_none_iff_exists'.mp hne
    have hold := heffect.working_eq ha hid
    rw [hidle.working] at hold
    cases hold

/-- A frame that does not greet an idle session leaves it idle. -/
theorem Reserved.of_read (hr : Reserved s) (h : Read s g s') : Reserved s' := by
  have hmono (hgreeted : s.greeted = true) : ∃ f ∈ s'.received, f.isHello = true := by
    obtain ⟨f, hf, hello⟩ := hr.greeted hgreeted
    rw [h.received_eq]
    exact ⟨f, List.mem_append_left _ hf, hello⟩
  have hself (hello : g.isHello = true) : ∃ f ∈ s'.received, f.isHello = true := by
    rw [h.received_eq]
    exact ⟨g, by simp, hello⟩
  cases h with
  | answered r greeted handled hkind hgreeted =>
    rcases hgreeted with rfl | ⟨rfl, hello⟩
    · exact ⟨fun hnot => ⟨(hr.idle hnot).tasks, (hr.idle hnot).unaries, rfl⟩, hmono⟩
    · exact ⟨by simp, fun _ => hself hello⟩
  | cancelling target handled hbody =>
    exact ⟨fun hnot => ⟨(hr.idle hnot).tasks, (hr.idle hnot).unaries, rfl⟩, hmono⟩
  | unary call handled hbody hgreeted => exact ⟨by simp [hgreeted], hmono⟩
  | stream call handled hbody hgreeted => exact ⟨by simp [hgreeted], hmono⟩
  | stopping captureId handled hbody hgreeted => exact ⟨by simp [hgreeted], hmono⟩

/-- Every step keeps a session idle until it is greeted. -/
theorem Reserved.step (hr : Reserved s) (h : Session.step conn d s a = some (d', s')) :
    Reserved s' := by
  rcases step_read h with ⟨g, rfl, -, hread⟩ | ha
  · exact hr.of_read hread
  · have hgreeted := step_greeted h ha
    have hreceived := (step_effect h).received_eq ha
    refine ⟨?_, ?_⟩
    · intro hnot
      rw [hgreeted] at hnot
      exact (hr.idle hnot).of_step h ha
    · intro hyes
      rw [hgreeted] at hyes
      rw [hreceived]
      exact hr.greeted hyes

/-- What an idle session does leaves the daemon as it is. -/
theorem Idle.daemon_eq (hidle : s.Idle) (h : Session.step conn d s a = some (d', s')) : d' = d := by
  have hnone (t : Nat) : s.tasks[t]? = none := by simp [hidle.tasks]
  cases a with
  | receive f =>
    simp only [Session.step] at h
    split_ifs at h
    cases h
    rfl
  | malformed detail =>
    simp only [Session.step] at h
    split_ifs at h
    cases h
    rfl
  | disconnect =>
    simp only [Session.step] at h
    split_ifs at h
    cases h
    rfl
  | loop =>
    rcases loopStep_daemon h with rfl | ⟨captureId, hforcing, -⟩
    · rfl
    · -- the read loop turns to the daemon for a `StopCapture` only
      have hworking := hidle.working
      unfold forcing at hforcing
      split at hforcing
      · rename_i id target hloop
        rw [hloop] at hworking
        cases hworking
      · cases hforcing
  | poll t => simp [Session.step, hnone] at h
  | yield t => simp [Session.step, hnone] at h
  | task t input => simp [Session.step, runTask, hnone] at h
  | forwarder t act => simp [Session.step, runForwarder, hnone] at h
  | unary u error => simp [Session.step, runUnary, hidle.unaries] at h
  | writerTake =>
    simp only [Session.step] at h
    split_ifs at h
    cases h
    rfl
  | writerClose =>
    cases h
    rfl

/-! ### The way to the end -/

/-- Steps of one fed connection. -/
abbrev Walk (conn : Nat) (sent : List ClientFrame) : Daemon × Session → Daemon × Session → Prop :=
  Runs.Steps (fun p a => Session.step conn p.1 p.2 a) (fun p a => Fed sent p.1 p.2 a)

/-- A walk only reads on in what was sent. -/
theorem Going.walk {p q : Daemon × Session} (hg : Going sent p.2) (h : Walk conn sent p q) :
    Going sent q.2 := by
  let Inv : Daemon × Session → Prop := fun p => Going sent p.2
  suffices hinv : Inv q from hinv
  exact h.invariant hg fun _ _ _ hg hok hs => Going.step hg hok hs

/-- The writer takes everything that is queued. -/
theorem walk_drained (d : Daemon) (s : Session) :
    Walk conn sent (d, s) (d, { s with pending := 0 }) := by
  induction h : s.pending generalizing s with
  | zero =>
    have hsame : { s with pending := 0 } = s := by rw [← h]
    rw [hsame]
    exact .refl _
  | succ n ih =>
    have htake : Session.step conn d s .writerTake = some (d, { s with pending := n }) := by
      simp [Session.step, h]
    exact (Runs.Steps.tail .writerTake (.refl _) trivial htake).trans
      (ih { s with pending := n } rfl)

/-- Steps the read loop still has to take before it reads on or is done. -/
def loopWork : LoopPc → Nat
  | .reading => 0
  | .closed => 0
  | .teardown => 1
  | .replying frames .read => frames.length + 1
  | .replying frames .teardown => frames.length + 2
  | .refused _ _ _ => 3
  | .cancelling _ _ => 4
  | .inserting _ _ => 4
  | .stoppingDaemon _ _ => 4
  | .stopping _ _ => 5

/-- With room in the queue the read loop gets on. -/
theorem loopStep_progress (d : Daemon) (hopen : s.writerOpen = true) (hroom : s.pending = 0)
    (hreading : s.loop ≠ .reading) (hclosed : s.loop ≠ .closed) :
    ∃ d' s', s.loopStep d = some (d', s') ∧ loopWork s'.loop < loopWork s.loop := by
  have hsend (f : ServerFrame) : s.send f = some (s.push f) := by
    simp [send, hopen, hroom, writeQueueDepth]
  -- With room in the queue every state but the two resting ones has a step.
  cases hloop : s.loop with
  | reading => exact absurd hloop hreading
  | closed => exact absurd hloop hclosed
  | replying frames after =>
    cases frames with
    | nil =>
      cases after with
      | read =>
        exact ⟨d, { s with loop := .reading }, by simp [loopStep, hloop], by simp [loopWork]⟩
      | teardown =>
        exact ⟨d, { s with loop := .teardown }, by simp [loopStep, hloop], by simp [loopWork]⟩
    | cons f fs =>
      refine ⟨d, { s.push f with loop := .replying fs after }, ?_, ?_⟩
      · simp [loopStep, hloop, hsend]
      · cases after with
        | read => simp [loopWork]
        | teardown => simp [loopWork]
  -- A cancel is answered whether or not its target is registered.
  | cancelling id target =>
    cases hhit : s.registry.lookup target with
    | none =>
      exact ⟨_, _, by simp only [loopStep, hloop, StreamRegistry.cancel, hhit]; rfl, by
        simp [answer, cancelReplies, loopWork]⟩
    | some t =>
      exact ⟨_, _, by simp only [loopStep, hloop, StreamRegistry.cancel, hhit]; rfl, by
        simp [answer, cancelReplies, loopWork]⟩
  | inserting id t =>
    cases hinsert : s.registry.insert id t with
    | error e => exact ⟨_, _, by simp only [loopStep, hloop, hinsert]; rfl, by simp [loopWork]⟩
    | ok result =>
      obtain ⟨registry, previous⟩ := result
      cases previous with
      | none => exact ⟨_, _, by simp only [loopStep, hloop, hinsert]; rfl, by simp [loopWork]⟩
      | some p =>
        exact ⟨_, _, by simp only [loopStep, hloop, hinsert]; rfl, by simp [abort, loopWork]⟩
  | refused id t e =>
    exact ⟨_, _, by simp only [loopStep, hloop]; rfl, by simp [answer, loopWork]⟩
  | stopping id captureId =>
    cases hhit : s.registry.lookup captureId with
    | none =>
      exact ⟨_, _, by simp only [loopStep, hloop, StreamRegistry.cancel, hhit]; rfl, by
        simp [loopWork]⟩
    | some t =>
      exact ⟨_, _, by simp only [loopStep, hloop, StreamRegistry.cancel, hhit]; rfl, by
        simp [answer, stopReplies, loopWork]⟩
  | stoppingDaemon id captureId =>
    cases hhit : d.captures.lookup captureId with
    | none =>
      exact ⟨_, _, by simp only [loopStep, hloop, Daemon.stopCapture, hhit]; rfl, by
        simp [answer, loopWork]⟩
    | some flag =>
      exact ⟨_, _, by simp only [loopStep, hloop, Daemon.stopCapture, hhit]; rfl, by
        simp [answer, stopReplies, loopWork]⟩
  | teardown =>
    exact ⟨_, _, by simp only [loopStep, hloop]; rfl, by simp [loopWork]⟩

/-- The read loop comes back to `read_frame`, or to its end. -/
theorem exists_rest (conn : Nat) (d : Daemon) (s : Session) (hg : Going sent s) :
    ∃ d' s', Walk conn sent (d, s) (d', s') ∧ s'.received = s.received ∧
      (s'.loop = .reading ∨ s'.loop = .closed) := by
  induction hwork : loopWork s.loop using Nat.strongRecOn generalizing d s with
  | ind n ih =>
    by_cases hrest : s.loop = .reading ∨ s.loop = .closed
    · exact ⟨d, s, .refl _, rfl, hrest⟩
    · rw [not_or] at hrest
      obtain ⟨d₁, s₁, hstep, hless⟩ := loopStep_progress (s := { s with pending := 0 }) d hg.writer
        rfl hrest.1 hrest.2
      have hwalk : Walk conn sent (d, s) (d₁, s₁) := .tail .loop (walk_drained d s) trivial hstep
      have hreceived : s₁.received = s.received :=
        (loopStep_effect hstep).received_eq (by simp)
      obtain ⟨d₂, s₂, hwalk₂, hreceived₂, hrest₂⟩ :=
        ih (loopWork s₁.loop) (hwork ▸ hless) d₁ s₁ (hg.walk hwalk) rfl
      exact ⟨d₂, s₂, hwalk.trans hwalk₂, hreceived₂.trans hreceived, hrest₂⟩

/-- The rest of `sent` is read, the stream ends, and the read loop with it. -/
theorem exists_closed (conn : Nat) (d : Daemon) (s : Session) (hg : Going sent s) :
    ∃ d' s', Walk conn sent (d, s) (d', s') ∧ s'.received = sent ∧ s'.loop = .closed := by
  -- By the number of frames the client still has to send.
  induction hleft : sent.length - s.received.length generalizing d s with
  | zero =>
    obtain ⟨d₁, s₁, hwalk, hreceived, hrest⟩ := exists_rest conn d s hg
    have hall : s₁.received = sent := by
      rw [hreceived]
      exact hg.reads.eq_of_length_le (by omega)
    rcases hrest with hloop | hloop
    -- All is read: the client hangs up, and the loop tears down.
    · let s₂ : Session := { s₁ with loop := .teardown }
      let s₃ : Session :=
        { s₁ with registry := .new, loop := .closed }.abortEach s₁.registry.handles
      have hend : Session.step conn d₁ s₁ .disconnect = some (d₁, s₂) := by
        simp [Session.step, hloop, s₂]
      have hclose : Session.step conn d₁ s₂ .loop = some (d₁, s₃) := rfl
      have hlast : s₃.received = s₁.received := (step_effect hclose).received_eq (by simp)
      have hclosed : s₃.loop = .closed := by simp [s₃]
      exact ⟨d₁, s₃, .tail .loop (.tail .disconnect hwalk hall hend) trivial hclose,
        hlast.trans hall, hclosed⟩
    · exact ⟨d₁, s₁, hwalk, hall, hloop⟩
  | succ n ih =>
    obtain ⟨d₁, s₁, hwalk, hreceived, hrest⟩ := exists_rest conn d s hg
    have hg₁ := hg.walk hwalk
    rcases hrest with hloop | hloop
    -- The loop is reading: it gets the next frame.
    · obtain ⟨rest, hrest⟩ := hg₁.reads
      cases rest with
      | nil =>
        rw [← hrest, hreceived] at hleft
        simp at hleft
      | cons g rest =>
        have hnext : s₁.received ++ [g] <+: sent := ⟨rest, by rw [← hrest]; simp⟩
        have hread : Session.step conn d₁ s₁ (.receive g) = some (d₁, s₁.receive g) := by
          simp [Session.step, hloop]
        have hwalk₂ : Walk conn sent (d, s) (d₁, s₁.receive g) :=
          .tail (.receive g) hwalk hnext hread
        obtain ⟨d₃, s₃, hwalk₃, hdone⟩ := ih d₁ (s₁.receive g) (hg.walk hwalk₂) (by
          rw [(receive_read s₁ g).received_eq, hreceived]
          simp
          omega)
        exact ⟨d₃, s₃, hwalk₂.trans hwalk₃, hdone⟩
    · have hall := hg₁.ending (by rw [hloop]; rfl)
      exact ⟨d₁, s₁, hwalk, hall, hloop⟩

/-- Everything that was sent is read, `serve` is past its loop, the detached tasks have
    returned and the writer has written what was queued. -/
structure Settled (sent : List ClientFrame) (s : Session) : Prop where
  received : s.received = sent
  closed : s.loop = .closed
  unaries : s.unaries = []
  written : s.pending = 0

/-- The detached tasks return one by one, each into an empty queue. -/
theorem exists_returned (conn : Nat) (d : Daemon) (s : Session) (hopen : s.writerOpen = true)
    (hreceived : s.received = sent) (hclosed : s.loop = .closed) :
    ∃ s', Walk conn sent (d, s) (d, s') ∧ Settled sent s' := by
  induction hleft : s.unaries generalizing s with
  | nil => exact ⟨_, walk_drained d s, ⟨hreceived, hclosed, hleft, rfl⟩⟩
  | cons u rest ih =>
    let s₁ : Session := { s with pending := 0 }
    let s₂ : Session := { s₁.push ⟨u.id, .unary u.call⟩ with unaries := rest }
    have hreply : Session.step conn d s₁ (.unary 0 none) = some (d, s₂) := by
      simp [Session.step, runUnary, send, push, s₁, s₂, hleft, hopen, writeQueueDepth]
    have hwalk : Walk conn sent (d, s) (d, s₂) :=
      .tail (.unary 0 none) (walk_drained d s) trivial hreply
    have hsame : s₂.received = s.received := (step_effect hreply).received_eq (by simp)
    obtain ⟨s₃, hwalk₃, hdone⟩ := ih s₂ hopen (hsame.trans hreceived) hclosed rfl
    exact ⟨s₃, hwalk.trans hwalk₃, hdone⟩

/-- **A fed connection can always be seen to its end.** -/
theorem exists_settled (conn : Nat) (d : Daemon) (s : Session) (hg : Going sent s) :
    ∃ d' s', Walk conn sent (d, s) (d', s') ∧ Settled sent s' := by
  obtain ⟨d₁, s₁, hwalk₁, hreceived, hclosed⟩ := exists_closed conn d s hg
  obtain ⟨s₂, hwalk₂, hdone⟩ :=
    exists_returned conn d₁ s₁ (hg.walk hwalk₁).writer hreceived hclosed
  exact ⟨d₁, s₂, hwalk₁.trans hwalk₂, hdone⟩

/-- Once everything is settled each request has one answer. -/
theorem Accounted.answers_eq (hacc : Accounted f s) (hdone : Settled sent s) (hf : f ∈ sent) :
    s.answers f.id = 1 := by
  have hdue := hacc.due
  have howed : s.owed f.id = 0 := by simp [owed, hdone.closed, hdone.unaries, LoopPc.owed]
  rw [Session.due, howed, hdone.received, if_pos hf] at hdue
  exact hdue

end Session

/-! ### All connections -/

namespace Server

open Session (Fed Settled)

variable {k : Nat} {sent : List ClientFrame} {w : Server}

/-- In every run the session reads what it is fed, in order. -/
theorem going (hrun : Run (On k (Fed sent)) w) : Session.Going sent (w.comp k) :=
  hrun.component (Session.Going.init sent) fun _ _ _ _ hg hok hs => hg.step (hok rfl) hs

/-- In every run a session is idle until it is greeted. -/
theorem reserved (hrun : Run (On k (Fed sent)) w) : Session.Reserved (w.comp k) :=
  hrun.component Session.Reserved.init fun _ _ _ _ hr _ hs => hr.step hs

/-- In every run each request has one answer, or one is due. -/
theorem accounted (hrun : Run (On k (Fed sent)) w) (hids : (sent.map ClientFrame.id).Nodup)
    {f : ClientFrame} (hf : f ∈ sent) (hunary : f.isUnary = true) (hid : f.id ≠ 0) :
    Session.Accounted f (w.comp k) := by
  -- the books need the connection to keep going, so the two are carried together
  let Inv : Session → Prop := fun s => Session.Going sent s ∧ Session.Accounted f s
  suffices hinv : Inv (w.comp k) from hinv.2
  refine hrun.component ⟨Session.Going.init sent, Session.Accounted.init f⟩ ?_
  intro v a d' s' hinv hok hs
  exact ⟨hinv.1.step (hok rfl) hs,
    hinv.2.step hinv.1 (hok rfl) hs hids hf hunary hid⟩

/-- Every run of the server can be continued until connection `k` is settled. -/
theorem exists_settled (hrun : Run (On k (Fed sent)) w) :
    ∃ w', Runs.Steps step (On k (Fed sent)) w w' ∧ Settled sent (w'.comp k) := by
  obtain ⟨d', s', hwalk, hdone⟩ :=
    Session.exists_settled k w.shared (w.comp k) (going hrun)
  have hallowed (v : Server) (a : Session.Action) (hok : Fed sent v.shared (v.comp k) a) :
      On k (Fed sent) v (k, a) := fun _ => hok
  obtain ⟨w', hsteps, -, hcomp⟩ := Runs.Steps.of_component hallowed hwalk
  exact ⟨w', hsteps, by rw [hcomp]; exact hdone⟩

/-- **Every call is answered once.**  The client of connection `k` sends `sent`, uses each id
    once and then closes its side or breaks the framing; the writer stays.  Until a `Hello` is
    read the connection has no task, makes no request of the daemon and leaves it as it is.
    Every frame that asks for one reply has at most one, and one when the connection is
    settled, which every run can be continued to. -/
theorem answered_once (hids : (sent.map ClientFrame.id).Nodup)
    (hrun : Run (On k (Fed sent)) w) :
    ((∀ f ∈ (w.comp k).received, f.isHello = false) →
      (w.comp k).Idle ∧
        ∀ a w', step w (k, a) = some w' → w'.shared = w.shared) ∧
    (∀ f ∈ sent, f.isUnary = true → f.id ≠ 0 →
      (w.comp k).answers f.id ≤ 1 ∧
        (Settled sent (w.comp k) → (w.comp k).answers f.id = 1)) ∧
    ∃ w', Runs.Steps step (On k (Fed sent)) w w' ∧ Settled sent (w'.comp k) := by
  refine ⟨?_, ?_, exists_settled hrun⟩
  · intro hnone
    have hgreeted : (w.comp k).greeted = false := by
      by_contra hyes
      obtain ⟨f, hf, hello⟩ := (reserved hrun).greeted (by simpa using hyes)
      rw [hnone f hf] at hello
      cases hello
    have hidle := (reserved hrun).idle hgreeted
    refine ⟨hidle, ?_⟩
    intro a w' hs
    exact hidle.daemon_eq (Runs.World.move_eq_some hs).1
  · intro f hf hunary hid
    have hacc := accounted hrun hids hf hunary hid
    exact ⟨hacc.answers_le, fun hdone => hacc.answers_eq hdone hf⟩

/-- The client sends `Hello` and `GetInterfaces` and closes its side; the interfaces are
    listed after `serve` is past its loop. -/
theorem answered_once_halfClosed :
    ∃ w, Run (On 0 (Fed [⟨1, some .hello⟩, ⟨2, some (.unary .getInterfaces)⟩])) w ∧
      (w.comp 0).answers 1 = 1 ∧ (w.comp 0).answers 2 = 1 := by
  obtain ⟨w, hrun, hreceived, hclosed, hunaries, hwritten⟩ :=
    exists_run (On 0 (Fed [⟨1, some .hello⟩, ⟨2, some (.unary .getInterfaces)⟩]))
      (List.flatten [greeting 0, [(0, .receive ⟨2, some (.unary .getInterfaces)⟩),
        (0, .disconnect), (0, .loop), (0, .writerTake), (0, .unary 0 none), (0, .writerTake)]])
      (fun w : Server =>
        (w.comp 0).received = [⟨1, some .hello⟩, ⟨2, some (.unary .getInterfaces)⟩] ∧
        (w.comp 0).loop = .closed ∧ (w.comp 0).unaries = [] ∧ (w.comp 0).pending = 0)
      (by decide +kernel)
  have hdone := (answered_once (by decide) hrun).2.1
  have hsettled : Settled _ (w.comp 0) := ⟨hreceived, hclosed, hunaries, hwritten⟩
  exact ⟨w, hrun, (hdone ⟨1, some .hello⟩ (by simp) rfl (by decide)).2 hsettled,
    (hdone ⟨2, some (.unary .getInterfaces)⟩ (by simp) rfl (by decide)).2 hsettled⟩

end Server

end Netdiag.Ipc
