import Mathlib.Logic.Relation
import Netdiag.Capture.Loop
import Netdiag.Ipc.Stream

namespace Netdiag.Capture

/-!
# Capture — the loop as a stream body

A session sees `start_capture` as a stream body (`Ipc.bodyStep`), which leaves out what a packet
is and where `next_packet` stands.  The loop of `CaptureCall.step` refines it.

* `CaptureCall.streamPc`, `CaptureBody.reply` — what the session sees of a call and its frames.
* `CaptureCall.Effect.simulates` — every step is one of the body, or none.
* `CaptureCall.simulates_of_run` — so every run is one of the body, with the same frames;
  `CaptureCall.capture_refines` — from the request on.
-/

open Checked Relation

/-- A frame as the session sees it. -/
def CaptureBody.reply : CaptureBody → Ipc.Reply
  | .captureStarted started => .captureStarted started.captureId
  | .packet p => .packet p.captureId
  | .captureStats stats => .captureStats stats.captureId
  | .captureFinished id _ reason => .captureFinished id reason

namespace CaptureCall

variable {t : Target} {s s' : CaptureCall}

/-- The stop conditions of the request. -/
def stopConditions (s : CaptureCall) : Ipc.StartCaptureRequest :=
  ⟨s.request.maxPackets, s.request.maxBytes⟩

/-- Where the body stands.  Inside `next_packet` it is at the `select!`. -/
def streamPc (s : CaptureCall) : Ipc.Pc :=
  match s.pc with
  | .starting => .body (.captureAnnounce s.stopConditions s.captureId)
  | .limits => .body (.captureLoop s.stopConditions s.captureId s.sent s.bytes)
  | .selecting | .checking | .awaiting =>
    .body (.captureSelect s.stopConditions s.captureId s.sent s.bytes)
  | .replying _ => .body (.capturePacket s.stopConditions s.captureId s.sent s.bytes)
  | .reporting =>
    .body (.captureStats s.captureId ((s.reason.map Reason.text).getD "") s.sent)
  | .finishing _ =>
    .body (.captureFinished s.captureId ((s.reason.map Reason.text).getD "") s.sent)
  | .closing outcome => .body (.captureFinish s.captureId outcome)
  | .returned outcome => .ending outcome

/-- The frames that were sent. -/
def replies (s : CaptureCall) : List Ipc.Reply := s.frames.map CaptureBody.reply

/-- The body moves; a frame counts as sent if the reply goes through. -/
def StreamMove (ref : Ipc.TaskRef) (d : Ipc.Daemon) (task : Ipc.StreamTask)
    (x y : Ipc.Pc × List Ipc.Reply) : Prop :=
  ∃ b input sendOk r, x.1 = .body b ∧ Ipc.bodyStep ref d sendOk task b input = some r ∧
    y.1 = r.task.pc ∧ y.2 = x.2 ++ if sendOk then r.reply.toList else []

/-- At the start nothing is counted. -/
theorem Kept.start (h : s.Kept) (hpc : s.pc = .starting) : s.sent = 0 ∧ s.bytes = 0 := by
  have hpackets := h.fresh hpc
  refine ⟨?_, ?_⟩
  · rw [h.sent, hpackets]
    rfl
  · rw [h.bytes (by rw [hpc]; rfl), hpackets, hpc]
    rfl

variable {ref : Ipc.TaskRef} {d : Ipc.Daemon} {task : Ipc.StreamTask}

/-- A move of the body that sends nothing. -/
theorem streamMove_goto {b b' : Ipc.Body} (input : Ipc.Input) (hpc : s.streamPc = .body b)
    (hstep : Ipc.bodyStep ref d true task b input =
      some ⟨d, { task with pc := .body b' }, none⟩)
    (hto : s'.streamPc = .body b') (hsame : s'.frames = s.frames) :
    StreamMove ref d task (s.streamPc, s.replies) (s'.streamPc, s'.replies) := by
  refine ⟨b, input, true, _, hpc, hstep, hto, ?_⟩
  show s'.frames.map _ = s.frames.map _ ++ []
  rw [hsame, List.append_nil]

/-- A move of the body that sends a frame, whether it goes through or not. -/
theorem streamMove_send {b b' : Ipc.Body} (body : CaptureBody) (delivered : Bool)
    (hpc : s.streamPc = .body b)
    (hstep : Ipc.bodyStep ref d delivered task b .go =
      some ⟨d, { task with pc := .body b' }, some body.reply⟩)
    (hto : s'.streamPc = .body b')
    (hframes : s'.frames = s.frames ++ if delivered then [body] else []) :
    StreamMove ref d task (s.streamPc, s.replies) (s'.streamPc, s'.replies) := by
  refine ⟨b, .go, delivered, _, hpc, hstep, hto, ?_⟩
  show s'.frames.map _ = s.frames.map _ ++ if delivered then [body.reply] else []
  rw [hframes, List.map_append]
  cases delivered with
  | false => rfl
  | true => rfl

/-- **Every step of the loop is a step of the body**, or one the session does not see. -/
theorem Effect.simulates (he : Effect t s s') (h : s.Kept)
    (hflag : s.socket.stop = true → ref ∈ d.stopFlags) :
    (s'.streamPc, s'.replies) = (s.streamPc, s.replies) ∨
      StreamMove ref d task (s.streamPc, s.replies) (s'.streamPc, s'.replies) := by
  cases he with
  | stopped => exact .inl rfl
  | announced now hpc =>
    obtain ⟨hsent, hbytes⟩ := h.start hpc
    refine .inr (streamMove_send (.captureStarted (s.started now)) true (by rw [streamPc, hpc])
      rfl ?_ rfl)
    show Ipc.Pc.body (.captureLoop s.stopConditions s.captureId s.sent s.bytes) = _
    rw [hsent, hbytes]
  | unheard hpc =>
    exact .inr (streamMove_send (.captureStarted (s.started 0)) false (by rw [streamPc, hpc])
      rfl rfl (List.append_nil _).symm)
  -- The three outcomes of the check of the limits.
  | overPackets hpc hne hle =>
    refine .inr (streamMove_goto .go (by rw [streamPc, hpc]) ?_ rfl rfl)
    exact if_pos ⟨hne, hle⟩
  | overBytes hpc hpackets hne hle =>
    refine .inr (streamMove_goto .go (by rw [streamPc, hpc]) ?_ rfl rfl)
    have hroom : ¬ (s.request.maxPackets ≠ 0 ∧ s.request.maxPackets ≤ s.sent) := by omega
    exact (if_neg hroom).trans (if_pos ⟨hne, hle⟩)
  | within hpc hpackets hbytes =>
    refine .inr (streamMove_goto .go (by rw [streamPc, hpc]) ?_ rfl rfl)
    have hroom : ¬ (s.request.maxPackets ≠ 0 ∧ s.request.maxPackets ≤ s.sent) := by omega
    have hroom' : ¬ (s.request.maxBytes ≠ 0 ∧ s.request.maxBytes ≤ s.bytes) := by omega
    exact (if_neg hroom).trans (if_neg hroom')
  -- Reading the clock is nothing the session sees.
  | polled hpc =>
    refine .inl ?_
    rw [streamPc, streamPc, hpc]
    rfl
  | elapsed hpc =>
    rcases hpc with hpc | hpc
    · exact .inr (streamMove_goto .deadline (by rw [streamPc, hpc]) rfl rfl rfl)
    · exact .inr (streamMove_goto .deadline (by rw [streamPc, hpc]) rfl rfl rfl)
  | flagged hpc hstop =>
    refine .inr (streamMove_goto .stopped (by rw [streamPc, hpc]) ?_ rfl rfl)
    exact if_pos (hflag hstop)
  | waits hpc hstop =>
    refine .inl ?_
    rw [streamPc, streamPc, hpc]
    rfl
  | passedOver filteredOut hpc =>
    refine .inl ?_
    rw [streamPc, streamPc, hpc]
    rfl
  | took bytes p hpc hsequence hid =>
    exact .inr (streamMove_goto (.packet p.originalLength.toNat)
      (by rw [streamPc, hpc]) rfl rfl rfl)
  | failed error hpc =>
    exact .inr (streamMove_goto (.readFailed error) (by rw [streamPc, hpc]) rfl rfl rfl)
  -- A packet is sent with the id of the capture that took it.
  | delivered p hpc =>
    have hid : p.captureId = s.captureId := h.tagged p (by rw [hpc]; simp [CapturePc.held])
    refine .inr (streamMove_send (.packet p) true (by rw [streamPc, hpc]) ?_ rfl rfl)
    rw [CaptureBody.reply, hid]
    rfl
  | hungUp p hpc =>
    have hid : p.captureId = s.captureId := h.tagged p (by rw [hpc]; simp [CapturePc.held])
    refine .inr (streamMove_send (.packet p) false (by rw [streamPc, hpc]) ?_ rfl
      (List.append_nil _).symm)
    rw [CaptureBody.reply, hid]
    rfl
  | reported drops delivered hpc =>
    rw [send_eq]
    exact .inr (streamMove_send _ delivered (by rw [streamPc, hpc]) rfl rfl rfl)
  | finished stats reason delivered hpc hreason =>
    rw [send_eq]
    exact .inr (streamMove_send (.captureFinished s.captureId stats reason) delivered (by
      rw [streamPc, hpc, ← hreason]) rfl rfl rfl)
  | closed outcome hpc =>
    exact .inr ⟨.captureFinish s.captureId outcome, .go, true, _, by rw [streamPc, hpc], rfl, rfl,
      (List.append_nil _).symm⟩

/-- The session's view of every run, from the announcement on: a run of the body, beside some
    daemon at each step, that sends the same frames. -/
theorem simulates_of_run {os : OpenCalls} {request : StartCaptureRequest} {c : CaptureSocket}
    {id : Nat} (hopen : CaptureSocket.open os request = .ok c)
    (hrun : Runs.Steps (step t) (fun _ _ => True) (init request id c) s) :
    ReflTransGen (fun x y => ∃ d, StreamMove ref d task x y)
      (.body (.captureAnnounce ⟨request.maxPackets, request.maxBytes⟩ id), [])
      (s.streamPc, s.replies) := by
  induction hrun with
  | refl => exact .refl
  | @tail s s' a hbefore _ hs ih =>
    have hkept : s.Kept := kept_of_run hopen hbefore
    -- A daemon that has the flag of this capture set when the capture has.
    let d : Ipc.Daemon := { Ipc.Daemon.new with stopFlags := if s.socket.stop then [ref] else [] }
    have hflag : s.socket.stop = true → ref ∈ d.stopFlags := by
      intro hstop
      simp [d, hstop]
    have hsim : _ ∨ StreamMove ref d task (s.streamPc, s.replies) (s'.streamPc, s'.replies) :=
      (step_effect hs).simulates hkept hflag
    rcases hsim with hsame | hmove
    · rw [hsame]
      exact ih
    · exact ih.tail ⟨d, hmove⟩

/-- The body draws its id, opens the capture and files it before the announcement. -/
theorem streamMoves_opened (request : Ipc.StartCaptureRequest) (id : Nat) :
    ReflTransGen (fun x y => ∃ d, StreamMove ref d task x y)
      (.body (.start (.startCapture request)), []) (.body (.captureAnnounce request id), []) := by
  let d : Ipc.Daemon := { Ipc.Daemon.new with nextCaptureId := id }
  have opened : StreamMove ref d task (.body (.start (.startCapture request)), [])
      (.body (.captureInsert request id), []) :=
    ⟨.start (.startCapture request), .opened none, true, _, rfl, rfl, rfl, rfl⟩
  have filed : StreamMove ref .new task (.body (.captureInsert request id), [])
      (.body (.captureAnnounce request id), []) :=
    ⟨.captureInsert request id, .go, true, _, rfl, rfl, rfl, rfl⟩
  exact (ReflTransGen.single ⟨d, opened⟩).tail ⟨.new, filed⟩

/-- What a session sees of a capture whose socket could be opened, in every run of its loop
    (whatever arrives, whenever it is stopped, whichever reply fails): a run of the stream body,
    from the request on, beside some daemon at each step, that sends the same frames. -/
theorem capture_refines {os : OpenCalls} {request : StartCaptureRequest} {c : CaptureSocket}
    {id : Nat} (hopen : CaptureSocket.open os request = .ok c)
    (hrun : Runs.Steps (step t) (fun _ _ => True) (init request id c) s)
    (ref : Ipc.TaskRef) (task : Ipc.StreamTask) :
    ReflTransGen (fun x y => ∃ d, StreamMove ref d task x y)
      (.body (.start (.startCapture ⟨request.maxPackets, request.maxBytes⟩)), [])
      (s.streamPc, s.replies) :=
  (streamMoves_opened _ id).trans (simulates_of_run hopen hrun)

/-- A capture that is announced and has sent one of two packets. -/
theorem capture_refines_onePacket : ∃ s : CaptureCall,
    s.replies = [.captureStarted 7, .packet 7] ∧
      ReflTransGen (fun x y => ∃ d, StreamMove ⟨0, 0⟩ d (.spawned 3 (.startCapture ⟨2, 0⟩)) x y)
        (.body (.start (.startCapture ⟨2, 0⟩)), []) (s.streamPc, s.replies) := by
  have run : ∃ s, Runs.Steps (step ⟨64, by decide⟩) (fun _ _ => True)
      (init { interfaceName := "rmnet0", maxPackets := 2 } 7
        ⟨.raw, 3, "rmnet0", 262144, false, 0, 0, 0⟩) s ∧
      s.replies = [.captureStarted 7, .packet 7] := by
    apply Runs.Steps.exists_of_exec (.announce 0 true :: onePacket [0x45, 0, 0, 4])
    decide +kernel
  obtain ⟨s, run, replies⟩ := run
  have opened : CaptureSocket.open Calls.rmnet { interfaceName := "rmnet0", maxPackets := 2 } =
      .ok ⟨.raw, 3, "rmnet0", 262144, false, 0, 0, 0⟩ := by
    decide +kernel
  exact ⟨s, replies, capture_refines opened run ⟨0, 0⟩ _⟩

end CaptureCall

end Netdiag.Capture
