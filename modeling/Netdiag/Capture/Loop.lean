import Netdiag.Capture.Socket
import Netdiag.Ipc.Frame
import Netdiag.Lib.Runs

namespace Netdiag.Capture

/-!
# Capture — the loop of `start_capture`

`Daemon::start_capture` of `daemon/src/daemon.rs`, from the opened capture on, as a step
function.  `select!` races `next_packet` against the deadline; its future is dropped when the
deadline wins, and what it had read with it.

* `CapturePc` — the await points, those inside `next_packet` included; `CaptureCall.step`.
* `CaptureCall.Effect` — the inversion lemma: every step is one of these.
* `CaptureCall.Kept` — the invariant that ties the counters of the `Capture`, those of the loop
  and the frames sent; `CaptureCall.Quiet` — the steps that move none of them.
* `capture_counts` — what follows at every point of every capture.

Between the `recvfrom` that brings a frame and the return of `next_packet` there is no await:
a packet that is counted is on its way to the client before the deadline is looked at again.
-/

open Checked

/-- `CaptureStats`. -/
structure CaptureStats where
  captureId : Nat
  packetsCaptured : Nat
  packetsDroppedKernel : Nat
  packetsFilteredOut : Nat
  bytesCaptured : Nat
  deriving DecidableEq, Repr

/-- `Capture::stats`, with the drops the kernel reports. -/
def CaptureSocket.stats (c : CaptureSocket) (id kernelDrops : Nat) : CaptureStats where
  captureId := id
  packetsCaptured := c.packets
  packetsDroppedKernel := kernelDrops
  packetsFilteredOut := c.filteredOut
  bytesCaptured := c.bytes

/-- `CaptureStarted`. -/
structure CaptureStarted where
  captureId : Nat
  interfaceName : String
  linkType : LinkType
  snaplen : UInt32
  startedUnixMs : Int
  bpfExpressionIgnored : Bool
  note : String
  pcapFileHeader : List UInt8
  deriving DecidableEq, Repr

/-- The frames a capture sends. -/
inductive CaptureBody
  | captureStarted (started : CaptureStarted)
  | packet (p : CapturedPacket)
  | captureStats (stats : CaptureStats)
  | captureFinished (captureId : Nat) (stats : CaptureStats) (reason : String)
  deriving DecidableEq, Repr

/-- The packet in a frame. -/
def CaptureBody.packet? : CaptureBody → Option CapturedPacket
  | .packet p => some p
  | _ => none

/-- What the loop breaks with. -/
inductive Reason
  | maxPackets
  | maxBytes
  | duration
  | clientDisconnected
  | stopped
  deriving DecidableEq, Repr

/-- The reason as the source spells it. -/
def Reason.text : Reason → String
  | .maxPackets => "max_packets"
  | .maxBytes => "max_bytes"
  | .duration => "duration"
  | .clientDisconnected => "client disconnected"
  | .stopped => "stopped"

/-- Where `start_capture` stands. -/
inductive CapturePc
  /-- `responder.reply(CaptureStarted).await`. -/
  | starting
  /-- The top of the loop. -/
  | limits
  /-- `select!`, before its first poll. -/
  | selecting
  /-- The top of the loop of `next_packet`. -/
  | checking
  /-- `self.fd.ready(..).await` of `next_packet`. -/
  | awaiting
  /-- `responder.reply(Packet).await`. -/
  | replying (p : CapturedPacket)
  /-- `responder.reply(CaptureStats).await`. -/
  | reporting
  /-- `responder.reply(CaptureFinished).await`. -/
  | finishing (stats : CaptureStats)
  /-- `self.finish_capture(capture_id).await`. -/
  | closing (outcome : Ipc.StreamOutcome)
  /-- `start_capture` has returned. -/
  | returned (outcome : Ipc.StreamOutcome)
  deriving DecidableEq, Repr

/-- A `start_capture` in progress: its arguments and locals.  `frames` records what it has
    sent. -/
structure CaptureCall where
  request : StartCaptureRequest
  captureId : Nat
  socket : CaptureSocket
  sent : Nat
  bytes : Nat
  reason : Option Reason
  frames : List CaptureBody
  pc : CapturePc
  deriving DecidableEq, Repr

namespace CaptureCall

/-- The capture is open and filed. -/
def init (request : StartCaptureRequest) (captureId : Nat) (socket : CaptureSocket) :
    CaptureCall :=
  { request, captureId, socket, sent := 0, bytes := 0, reason := none, frames := [],
    pc := .starting }

/-- `request.filter.clone().unwrap_or_default()`. -/
def filter (s : CaptureCall) : CaptureFilter := s.request.filter.getD {}

/-- What the capture announces. -/
def started (s : CaptureCall) (nowUnixMs : Int) : CaptureStarted where
  captureId := s.captureId
  interfaceName := s.socket.interfaceName
  linkType := s.socket.linkType
  snaplen := s.socket.snaplen
  startedUnixMs := nowUnixMs
  bpfExpressionIgnored := !s.filter.bpfExpression.isEmpty
  note := if s.filter.bpfExpression.isEmpty then ""
    else "this build filters in userspace and ignores bpf_expression"
  pcapFileHeader := pcapHeader s.socket.linkType s.socket.snaplen

/-- `break`. -/
def break_ (s : CaptureCall) (reason : Reason) : CaptureCall :=
  { s with reason := some reason, pc := .reporting }

/-- Who moves, and with what from the environment.  `delivered` is what `reply` returns. -/
inductive Action
  | announce (nowUnixMs : Int) (delivered : Bool)
  | check
  | poll
  | look
  | recv (event : SocketEvent)
  | deadline
  | reply (delivered : Bool)
  | report (kernelDrops : Nat) (delivered : Bool)
  | finish
  /-- Another task sets the stop flag. -/
  | stop
  deriving DecidableEq, Repr

/-- The frame counts as sent when it is delivered. -/
def send (s : CaptureCall) (body : CaptureBody) (delivered : Bool) : CaptureCall :=
  if delivered then { s with frames := s.frames ++ [body] } else s

/-- What `next_packet` has returned, or that it goes on. -/
def onNext (s : CaptureCall) : Option Next → CaptureCall
  | none => { s with pc := .checking }
  | some (.packet _ p) =>
    { s with
      bytes := s.bytes + p.originalLength.toNat
      pc := .replying { p with captureId := s.captureId } }
  | some .stopped => s.break_ .stopped
  | some (.failed e) =>
    { s with pc := .closing (.failed { code := .internal, message := e, detail := e } s.sent) }

/-- One step of `start_capture`. -/
def step (t : Target) (s : CaptureCall) (a : Action) : Option CaptureCall :=
  match s.pc, a with
  -- `stop_capture` may come at any point; the flag is read at the top of `next_packet` only.
  | _, .stop => some { s with socket := { s.socket with stop := true } }
  | .starting, .announce now delivered =>
    if delivered then some { s.send (.captureStarted (s.started now)) true with pc := .limits }
    else some { s with pc := .closing (.done "client disconnected" 0) }
  | .limits, .check =>
    if s.request.maxPackets ≠ 0 ∧ s.request.maxPackets ≤ s.sent then some (s.break_ .maxPackets)
    else if s.request.maxBytes ≠ 0 ∧ s.request.maxBytes ≤ s.bytes then some (s.break_ .maxBytes)
    else some { s with pc := .selecting }
  | .selecting, .poll => some { s with pc := .checking }
  -- The deadline's branch may be polled first, or when `next_packet` waits.
  | .selecting, .deadline => some (s.break_ .duration)
  | .awaiting, .deadline => some (s.break_ .duration)
  | .checking, .look =>
    if s.socket.stop then some (s.onNext (some .stopped)) else some { s with pc := .awaiting }
  | .awaiting, .recv event =>
    match s.socket.onEvent t s.filter s.request.includePayload event with
    | .ok (next, socket) => some ({ s with socket }.onNext next)
    | .error _ => none
  | .replying p, .reply delivered =>
    if delivered then
      some { s.send (.packet p) true with sent := s.sent + 1, pc := .limits }
    else some (s.break_ .clientDisconnected)
  -- The results of the last two replies are not looked at.
  | .reporting, .report drops delivered =>
    let stats := s.socket.stats s.captureId drops
    some { s.send (.captureStats stats) delivered with pc := .finishing stats }
  | .finishing stats, .reply delivered =>
    let reason := (s.reason.map Reason.text).getD ""
    some { s.send (.captureFinished s.captureId stats reason) delivered with
      pc := .closing (.done s!"capture finished: {reason}" s.sent) }
  | .closing outcome, .finish => some { s with pc := .returned outcome }
  | _, _ => none

/-! ### What a step can do -/

variable {t : Target} {s s' : CaptureCall} {a : Action}

/-- Everything a step of `start_capture` can do. -/
inductive Effect (t : Target) (s : CaptureCall) : CaptureCall → Prop
  | stopped : Effect t s { s with socket := { s.socket with stop := true } }
  | announced (now : Int) (hpc : s.pc = .starting) :
      Effect t s { s.send (.captureStarted (s.started now)) true with pc := .limits }
  | unheard (hpc : s.pc = .starting) :
      Effect t s { s with pc := .closing (.done "client disconnected" 0) }
  | overPackets (hpc : s.pc = .limits) (hne : s.request.maxPackets ≠ 0)
      (hle : s.request.maxPackets ≤ s.sent) : Effect t s (s.break_ .maxPackets)
  | overBytes (hpc : s.pc = .limits)
      (hpackets : s.request.maxPackets ≠ 0 → s.sent < s.request.maxPackets)
      (hne : s.request.maxBytes ≠ 0) (hle : s.request.maxBytes ≤ s.bytes) :
      Effect t s (s.break_ .maxBytes)
  | within (hpc : s.pc = .limits)
      (hpackets : s.request.maxPackets ≠ 0 → s.sent < s.request.maxPackets)
      (hbytes : s.request.maxBytes ≠ 0 → s.bytes < s.request.maxBytes) :
      Effect t s { s with pc := .selecting }
  | polled (hpc : s.pc = .selecting) : Effect t s { s with pc := .checking }
  | elapsed (hpc : s.pc = .selecting ∨ s.pc = .awaiting) : Effect t s (s.break_ .duration)
  | flagged (hpc : s.pc = .checking) (hstop : s.socket.stop = true) :
      Effect t s (s.break_ .stopped)
  | waits (hpc : s.pc = .checking) (hstop : s.socket.stop = false) :
      Effect t s { s with pc := .awaiting }
  /-- Nothing was there, or the frame did not pass the filter. -/
  | passedOver (filteredOut : Nat) (hpc : s.pc = .awaiting) :
      Effect t s { s with socket := { s.socket with filteredOut }, pc := .checking }
  /-- A frame is counted and becomes the next packet. -/
  | took (bytes : Nat) (p : CapturedPacket) (hpc : s.pc = .awaiting)
      (hsequence : p.sequence = s.socket.packets + 1) (hid : p.captureId = s.captureId) :
      Effect t s { s with
        socket := { s.socket with packets := s.socket.packets + 1, bytes }
        bytes := s.bytes + p.originalLength.toNat
        pc := .replying p }
  | failed (error : Ipc.Error) (hpc : s.pc = .awaiting) :
      Effect t s { s with pc := .closing (.failed error s.sent) }
  | delivered (p : CapturedPacket) (hpc : s.pc = .replying p) :
      Effect t s { s.send (.packet p) true with sent := s.sent + 1, pc := .limits }
  | hungUp (p : CapturedPacket) (hpc : s.pc = .replying p) :
      Effect t s (s.break_ .clientDisconnected)
  | reported (drops : Nat) (delivered : Bool) (hpc : s.pc = .reporting) :
      Effect t s { s.send (.captureStats (s.socket.stats s.captureId drops)) delivered with
        pc := .finishing (s.socket.stats s.captureId drops) }
  | finished (stats : CaptureStats) (reason : String) (delivered : Bool)
      (hpc : s.pc = .finishing stats) (hreason : reason = (s.reason.map Reason.text).getD "") :
      Effect t s { s.send (.captureFinished s.captureId stats reason) delivered with
        pc := .closing (.done s!"capture finished: {reason}" s.sent) }
  | closed (outcome : Ipc.StreamOutcome) (hpc : s.pc = .closing outcome) :
      Effect t s { s with pc := .returned outcome }

/-- What a wake of `next_packet` leads to. -/
theorem effect_onEvent (hpc : s.pc = .awaiting) {event : SocketEvent} {next : Option Next}
    {socket : CaptureSocket}
    (h : s.socket.onEvent t s.filter s.request.includePayload event = .ok (next, socket)) :
    Effect t s ({ s with socket }.onNext next) := by
  cases event with
  | wouldBlock =>
    cases h
    exact .passedOver s.socket.filteredOut hpc
  | error e =>
    cases h
    exact .failed _ hpc
  | frame f =>
    rcases s.socket.receive_spec t s.filter s.request.includePayload f with
      ⟨-, hr⟩ | ⟨-, p, hr, hsequence, -⟩
    · rw [CaptureSocket.onEvent, hr, ok_bind] at h
      cases h
      exact .passedOver _ hpc
    · rw [CaptureSocket.onEvent, hr, ok_bind] at h
      cases h
      exact .took _ { p with captureId := s.captureId } hpc hsequence rfl

/-- The inversion lemma. -/
theorem step_effect (h : s.step t a = some s') : Effect t s s' := by
  unfold step at h
  split at h
  · cases h
    exact .stopped
  · rename_i now delivered hpc
    split at h
    · cases h
      exact .announced now hpc
    · cases h
      exact .unheard hpc
  · rename_i hpc
    split at h
    · cases h
      rename_i hover
      exact .overPackets hpc hover.1 hover.2
    · rename_i hpackets
      split at h
      · cases h
        rename_i hover
        exact .overBytes hpc (by omega) hover.1 hover.2
      · rename_i hbytes
        cases h
        exact .within hpc (by omega) (by omega)
  · rename_i hpc
    cases h
    exact .polled hpc
  · rename_i hpc
    cases h
    exact .elapsed (.inl hpc)
  · rename_i hpc
    cases h
    exact .elapsed (.inr hpc)
  · rename_i hpc
    split at h
    · cases h
      rename_i hstop
      exact .flagged hpc hstop
    · cases h
      rename_i hstop
      exact .waits hpc (by simpa using hstop)
  -- What the socket returned, once it was readable.
  · rename_i event hpc
    split at h
    · rename_i next socket hevent
      cases h
      exact effect_onEvent hpc hevent
    · cases h
  · rename_i p delivered hpc
    split at h
    · cases h
      exact .delivered p hpc
    · cases h
      exact .hungUp p hpc
  -- The two frames a capture ends with.
  · rename_i drops delivered hpc
    cases h
    exact .reported drops delivered hpc
  · rename_i stats delivered hpc
    cases h
    exact .finished stats _ delivered hpc rfl
  · rename_i outcome hpc
    cases h
    exact .closed outcome hpc
  · cases h

/-! ### The counters -/

/-- The packets sent. -/
def packets (s : CaptureCall) : List CapturedPacket := s.frames.filterMap CaptureBody.packet?

/-- The summed `original_length` of packets. -/
def wireBytes (packets : List CapturedPacket) : Nat :=
  (packets.map fun p => p.originalLength.toNat).sum

/-- These numbers are in a frame that was sent, or about to be. -/
def Reports (s : CaptureCall) (stats : CaptureStats) : Prop :=
  s.pc = .finishing stats ∨ .captureStats stats ∈ s.frames ∨
    ∃ id reason, .captureFinished id stats reason ∈ s.frames

end CaptureCall

/-- The loop has not been left. -/
def CapturePc.early : CapturePc → Bool
  | .starting | .limits | .selecting | .checking | .awaiting | .replying _ => true
  | _ => false

/-- The limits have been looked at for the next packet. -/
def CapturePc.cleared : CapturePc → Bool
  | .selecting | .checking | .awaiting | .replying _ => true
  | _ => false

/-- The packet that was counted and is not sent yet. -/
def CapturePc.held : CapturePc → List CapturedPacket
  | .replying p => [p]
  | _ => []

namespace CaptureCall

variable {t : Target} {s s' : CaptureCall} {a : Action}

/-- What ties the counters of the capture, those of the loop and the frames sent.  After a
    reply that found the client gone, the capture has counted a packet that was not sent. -/
structure Kept (s : CaptureCall) : Prop where
  fresh : s.pc = .starting → s.packets = []
  sent : s.sent = s.packets.length
  bytes : s.pc.early = true → s.bytes = wireBytes (s.packets ++ s.pc.held)
  counted : s.reason ≠ some .clientDisconnected →
    s.socket.packets = (s.packets ++ s.pc.held).length
  sequence : (s.packets ++ s.pc.held).map (·.sequence) =
    List.range' 1 (s.packets ++ s.pc.held).length
  tagged : ∀ p ∈ s.packets ++ s.pc.held, p.captureId = s.captureId
  early : s.pc.early = true → s.reason = none ∧ ∀ stats, ¬ s.Reports stats
  reported : s.reason ≠ some .clientDisconnected → ∀ stats, s.Reports stats →
    stats.packetsCaptured = s.packets.length
  outcome : ∀ outcome, s.pc = .closing outcome ∨ s.pc = .returned outcome →
    outcome.itemsSent = s.packets.length
  mostPackets : s.request.maxPackets ≠ 0 → s.packets.length ≤ s.request.maxPackets ∧
    (s.pc.cleared = true → s.packets.length < s.request.maxPackets)
  mostBytes : s.request.maxBytes ≠ 0 → wireBytes s.packets.dropLast < s.request.maxBytes ∧
    (s.pc.cleared = true → wireBytes s.packets < s.request.maxBytes)

/-- A capture begins with nothing received and nothing sent. -/
theorem kept_init {request : StartCaptureRequest} {id : Nat} {c : CaptureSocket}
    (hpackets : c.packets = 0) : (init request id c).Kept where
  fresh _ := rfl
  sent := rfl
  bytes _ := rfl
  counted _ := hpackets
  sequence := rfl
  tagged := by simp [init, packets, CapturePc.held]
  early _ := ⟨rfl, by simp [Reports, init]⟩
  reported _ := by simp [Reports, init]
  outcome := by simp [init]
  mostPackets hne := ⟨Nat.zero_le _, by simp [init, CapturePc.cleared]⟩
  mostBytes hne := ⟨Nat.pos_of_ne_zero hne, by simp [init, CapturePc.cleared]⟩

/-! ### Steps that count nothing -/

/-- A step that neither counts a packet nor sends one.  Numbers it reports are those of the
    capture. -/
structure Quiet (s s' : CaptureCall) : Prop where
  request : s'.request = s.request := by rfl
  captureId : s'.captureId = s.captureId := by rfl
  sent : s'.sent = s.sent := by rfl
  bytes : s'.bytes = s.bytes := by rfl
  counted : s'.socket.packets = s.socket.packets := by rfl
  packets : s'.packets = s.packets
  held : s'.pc.held = s.pc.held
  fresh : s'.pc = .starting → s.pc = .starting
  early : s'.pc.early = true → s.pc.early = true ∧ s'.reason = s.reason ∧
    ∀ stats, s'.Reports stats → s.Reports stats
  reason : s.pc.early = true ∨ s'.reason = s.reason
  reported : ∀ stats, s'.Reports stats → s.Reports stats ∨
    s.pc.held = [] ∧ stats.packetsCaptured = s.socket.packets
  outcome : ∀ outcome, s'.pc = .closing outcome ∨ s'.pc = .returned outcome →
    s.pc = .closing outcome ∨ outcome.itemsSent = s.sent ∨
      s.pc = .starting ∧ outcome.itemsSent = 0
  cleared : s'.pc.cleared = true → s.pc.cleared = true ∨
    s.pc.early = true ∧ s.pc.held = [] ∧
      (s.request.maxPackets ≠ 0 → s.sent < s.request.maxPackets) ∧
      (s.request.maxBytes ≠ 0 → s.bytes < s.request.maxBytes)

/-- A step that receives and sends nothing keeps the counts. -/
theorem Kept.quiet (h : s.Kept) (hq : Quiet s s') : s'.Kept := by
  -- A step that sets the reason leaves the loop, where there was none.
  have hreason : s'.reason ≠ some .clientDisconnected →
      s.reason ≠ some .clientDisconnected := by
    intro hne
    rcases hq.reason with hearly | hsame
    · rw [(h.early hearly).1]
      simp
    · rwa [← hsame]
  refine ⟨?_, ?_, ?_, ?_, ?_, ?_, ?_, ?_, ?_, ?_, ?_⟩
  · intro hpc
    rw [hq.packets]
    exact h.fresh (hq.fresh hpc)
  · rw [hq.sent, hq.packets, h.sent]
  · intro hearly
    rw [hq.bytes, hq.packets, hq.held]
    exact h.bytes (hq.early hearly).1
  · intro hne
    rw [hq.counted, hq.packets, hq.held]
    exact h.counted (hreason hne)
  · rw [hq.packets, hq.held]
    exact h.sequence
  · rw [hq.packets, hq.held, hq.captureId]
    exact h.tagged
  · intro hearly
    obtain ⟨hbefore, hsame, hreports⟩ := hq.early hearly
    rw [hsame]
    exact ⟨(h.early hbefore).1, fun stats hs => (h.early hbefore).2 stats (hreports stats hs)⟩
  · intro hne stats hs
    rw [hq.packets]
    rcases hq.reported stats hs with hs | ⟨hheld, hcount⟩
    · exact h.reported (hreason hne) stats hs
    · -- Fresh numbers are those of the capture, and nothing is on its way.
      rw [hcount, h.counted (hreason hne), hheld, List.append_nil]
  · intro outcome hpc
    rw [hq.packets]
    rcases hq.outcome outcome hpc with hpc | hitems | ⟨hpc, hitems⟩
    · exact h.outcome outcome (.inl hpc)
    · rw [hitems, h.sent]
    · rw [hitems, h.fresh hpc]
      rfl
  · intro hne
    rw [hq.request] at hne ⊢
    rw [hq.packets]
    refine ⟨(h.mostPackets hne).1, fun hcleared => ?_⟩
    rcases hq.cleared hcleared with hcleared | ⟨-, -, hroom, -⟩
    · exact (h.mostPackets hne).2 hcleared
    · rw [← h.sent]
      exact hroom hne
  · intro hne
    rw [hq.request] at hne ⊢
    rw [hq.packets]
    refine ⟨(h.mostBytes hne).1, fun hcleared => ?_⟩
    rcases hq.cleared hcleared with hcleared | ⟨hearly, hheld, -, hroom⟩
    · exact (h.mostBytes hne).2 hcleared
    · have hbytes := h.bytes hearly
      rw [hheld, List.append_nil] at hbytes
      rw [← hbytes]
      exact hroom hne

/-- `next_packet` and the head of the loop move on. -/
theorem quiet_move {socket : CaptureSocket} {here pc : CapturePc}
    (hcount : socket.packets = s.socket.packets) (hhere : s.pc = here)
    (hfrom : here.early = true ∧ here.held = [])
    (hto : pc.early = true ∧ pc.held = [] ∧ pc ≠ .starting)
    (hcleared : here.cleared = true ∨
      (s.request.maxPackets ≠ 0 → s.sent < s.request.maxPackets) ∧
        (s.request.maxBytes ≠ 0 → s.bytes < s.request.maxBytes)) :
    Quiet s { s with socket, pc } := by
  subst hhere
  obtain ⟨hearly, hheld⟩ := hfrom
  obtain ⟨hpcEarly, hpcHeld, hpcFresh⟩ := hto
  have hreports : ∀ stats, Reports { s with socket, pc } stats → s.Reports stats := by
    rintro stats (rfl | hsent)
    · cases hpcEarly
    · exact .inr hsent
  refine { counted := hcount, packets := rfl, held := hpcHeld.trans hheld.symm, fresh := ?_,
           early := fun _ => ⟨hearly, rfl, hreports⟩, reason := .inr rfl,
           reported := fun stats hs => .inl (hreports stats hs), outcome := ?_, cleared := ?_ }
  · intro hpc
    exact absurd hpc hpcFresh
  · rintro outcome (rfl | rfl) <;> cases hpcEarly
  · intro _
    rcases hcleared with hcleared | ⟨hpackets, hbytes⟩
    · exact .inl hcleared
    · exact .inr ⟨hearly, hheld, hpackets, hbytes⟩

/-- The loop is left with nothing on its way. -/
theorem quiet_leave {reason : Option Reason} {here pc : CapturePc} (hhere : s.pc = here)
    (hfrom : here.early = true ∧ here.held = [])
    (hpc : pc = .reporting ∨ ∃ outcome, pc = .closing outcome ∧
      (outcome.itemsSent = s.sent ∨ here = .starting ∧ outcome.itemsSent = 0)) :
    Quiet s { s with reason, pc } := by
  subst hhere
  obtain ⟨hearly, hheld⟩ := hfrom
  -- Both ends of the loop are past the limits and hold no packet.
  have hleft : pc.early = false ∧ pc.held = [] ∧ pc.cleared = false := by
    rcases hpc with rfl | ⟨outcome, rfl, -⟩ <;> exact ⟨rfl, rfl, rfl⟩
  obtain ⟨hpcEarly, hpcHeld, hpcCleared⟩ := hleft
  refine { packets := rfl, held := hpcHeld.trans hheld.symm, fresh := ?_, early := ?_,
           reason := .inl hearly, reported := ?_, outcome := ?_, cleared := ?_ }
  · rintro rfl
    cases hpcEarly
  · intro hlate
    rw [hpcEarly] at hlate
    cases hlate
  · rintro stats (rfl | hsent)
    · rcases hpc with hpc | ⟨outcome, hpc, -⟩ <;> cases hpc
    · exact .inl (.inr hsent)
  · intro outcome hat
    rcases hpc with rfl | ⟨o, rfl, hitems⟩
    · rcases hat with hat | hat <;> cases hat
    · rcases hat with hat | hat
      · cases hat
        exact .inr hitems
      · cases hat
  · intro hlate
    rw [hpcCleared] at hlate
    cases hlate

/-- A frame is queued if the connection takes it. -/
theorem send_eq (s : CaptureCall) (body : CaptureBody) (delivered : Bool) :
    s.send body delivered =
      { s with frames := s.frames ++ if delivered then [body] else [] } := by
  cases delivered with
  | false => simp [send]
  | true => rfl

/-- What is queued after a send was there before or is what was sent. -/
theorem mem_of_mem_send {frames : List CaptureBody} {body b : CaptureBody} {delivered : Bool}
    (h : b ∈ frames ++ if delivered then [body] else []) : b ∈ frames ∨ b = body := by
  cases delivered with
  | false => exact .inl (by simpa using h)
  | true => simpa using h

/-- A frame that is no packet adds no packet. -/
theorem filterMap_send (frames : List CaptureBody) {body : CaptureBody}
    (h : body.packet? = none) (delivered : Bool) :
    (frames ++ if delivered then [body] else []).filterMap CaptureBody.packet? =
      frames.filterMap CaptureBody.packet? := by
  cases delivered with
  | false => simp
  | true => simp [h]

/-- A frame without numbers adds none to those that were sent. -/
theorem reported_of_concat {frames : List CaptureBody} {body : CaptureBody} {stats : CaptureStats}
    (hstats : ∀ st, body ≠ .captureStats st)
    (hfinished : ∀ id st r, body ≠ .captureFinished id st r)
    (h : .captureStats stats ∈ frames ++ [body] ∨
      ∃ id reason, .captureFinished id stats reason ∈ frames ++ [body]) :
    .captureStats stats ∈ frames ∨ ∃ id reason, .captureFinished id stats reason ∈ frames := by
  rcases h with hsent | ⟨id, reason, hsent⟩
  · rcases List.mem_append.mp hsent with hsent | hsent
    · exact .inl hsent
    · exact absurd (List.mem_singleton.mp hsent).symm (hstats stats)
  · rcases List.mem_append.mp hsent with hsent | hsent
    · exact .inr ⟨id, reason, hsent⟩
    · exact absurd (List.mem_singleton.mp hsent).symm (hfinished id stats reason)

/-- The numbers are taken and sent. -/
theorem quiet_report (hpc : s.pc = .reporting) (drops : Nat) (delivered : Bool) :
    Quiet s { s.send (.captureStats (s.socket.stats s.captureId drops)) delivered with
      pc := .finishing (s.socket.stats s.captureId drops) } := by
  have hheld : s.pc.held = [] := by rw [hpc]; rfl
  rw [send_eq]
  refine { packets := filterMap_send _ rfl _, held := by rw [hheld]; rfl, fresh := nofun,
           early := nofun, reason := .inr rfl, reported := ?_, outcome := by simp,
           cleared := nofun }
  -- They are the new ones, here or in the frame, or they were sent before.
  rintro stats (hat | hsent | ⟨id, reason, hsent⟩)
  · cases hat
    exact .inr ⟨hheld, rfl⟩
  · rcases mem_of_mem_send hsent with hsent | hsent
    · exact .inl (.inr (.inl hsent))
    · cases hsent
      exact .inr ⟨hheld, rfl⟩
  · rcases mem_of_mem_send hsent with hsent | hsent
    · exact .inl (.inr (.inr ⟨id, reason, hsent⟩))
    · cases hsent

/-- The same numbers are sent once more. -/
theorem quiet_finish {stats : CaptureStats} (hpc : s.pc = .finishing stats) (reason : String)
    (delivered : Bool) :
    Quiet s { s.send (.captureFinished s.captureId stats reason) delivered with
      pc := .closing (.done s!"capture finished: {reason}" s.sent) } := by
  have hheld : s.pc.held = [] := by rw [hpc]; rfl
  rw [send_eq]
  refine { packets := filterMap_send _ rfl _, held := by rw [hheld]; rfl, fresh := nofun,
           early := nofun, reason := .inr rfl, reported := ?_, outcome := ?_,
           cleared := nofun }
  · rintro stats' (hat | hsent | ⟨id, text, hsent⟩)
    · cases hat
    · rcases mem_of_mem_send hsent with hsent | hsent
      · exact .inl (.inr (.inl hsent))
      · cases hsent
    · rcases mem_of_mem_send hsent with hsent | hsent
      · exact .inl (.inr (.inr ⟨id, text, hsent⟩))
      · cases hsent
        exact .inl (.inl hpc)
  · rintro outcome (hat | hat) <;> cases hat
    exact .inr (.inl rfl)

/-! ### Packets -/

/-- Sent or held, the packets are numbered from one on; so are those that were sent. -/
theorem Kept.sequence_sent (h : s.Kept) :
    s.packets.map (·.sequence) = List.range' 1 s.packets.length := by
  have hall := h.sequence
  rw [List.map_append, List.length_append, ← List.range'_append_1] at hall
  exact (List.append_inj hall (by simp)).1

/-- A frame is counted: it is the next in the sequence, and held until it is sent. -/
theorem Kept.took (h : s.Kept) (hpc : s.pc = .awaiting) (bytes : Nat) {p : CapturedPacket}
    (hsequence : p.sequence = s.socket.packets + 1) (hid : p.captureId = s.captureId) :
    Kept { s with
      socket := { s.socket with packets := s.socket.packets + 1, bytes }
      bytes := s.bytes + p.originalLength.toNat
      pc := .replying p } := by
  obtain ⟨hreason, hnone⟩ := h.early (by rw [hpc]; rfl)
  -- While `next_packet` waits nothing is held: the counters are those of the frames.
  have hcounted : s.socket.packets = s.packets.length := by
    rw [h.counted (by rw [hreason]; simp), hpc]
    exact congrArg List.length (List.append_nil _)
  have hbytes : s.bytes = wireBytes s.packets := by
    rw [h.bytes (by rw [hpc]; rfl), hpc]
    exact congrArg wireBytes (List.append_nil _)
  have hclear : s.pc.cleared = true := by rw [hpc]; rfl
  refine { fresh := nofun, sent := h.sent, bytes := fun _ => ?_, counted := fun _ => ?_,
           sequence := ?_, tagged := ?_, early := fun _ => ⟨hreason, ?_⟩,
           reported := fun _ stats hs => ?_, outcome := by simp,
           mostPackets := fun hne => ?_, mostBytes := fun hne => ?_ }
  · show s.bytes + p.originalLength.toNat = wireBytes (s.packets ++ [p])
    rw [hbytes]
    simp [wireBytes]
  · show s.socket.packets + 1 = (s.packets ++ [p]).length
    rw [hcounted, List.length_append, List.length_singleton]
  · show (s.packets ++ [p]).map (·.sequence) = List.range' 1 (s.packets ++ [p]).length
    rw [List.map_append, h.sequence_sent, List.length_append, List.length_singleton,
      List.range'_1_concat, List.map_singleton, hsequence, hcounted, Nat.add_comm]
  · intro q hq
    rcases List.mem_append.mp hq with hq | hq
    · exact h.tagged q (List.mem_append_left _ hq)
    · rw [List.mem_singleton.mp hq]
      exact hid
  · rintro stats (hat | hsent)
    · cases hat
    · exact hnone stats (.inr hsent)
  · rcases hs with hat | hsent
    · cases hat
    · exact absurd (.inr hsent) (hnone stats)
  · exact ⟨(h.mostPackets hne).1, fun _ => (h.mostPackets hne).2 hclear⟩
  · exact ⟨(h.mostBytes hne).1, fun _ => (h.mostBytes hne).2 hclear⟩

/-- A packet that is sent is the last one. -/
theorem packets_send_packet (s : CaptureCall) (p : CapturedPacket) :
    (s.send (.packet p) true).packets = s.packets ++ [p] := by
  simp [packets, send, CaptureBody.packet?]

/-- What was held is sent. -/
theorem Kept.delivered (h : s.Kept) {p : CapturedPacket} (hpc : s.pc = .replying p) :
    Kept { s.send (.packet p) true with sent := s.sent + 1, pc := .limits } := by
  have hearly : s.pc.early = true := by rw [hpc]; rfl
  have hclear : s.pc.cleared = true := by rw [hpc]; rfl
  have hheld : s.pc.held = [p] := by rw [hpc]; rfl
  have hpackets : packets { s.send (.packet p) true with sent := s.sent + 1, pc := .limits } =
      s.packets ++ [p] := packets_send_packet s p
  -- What was held has become the last that was sent, so together nothing changes.
  have hall : packets { s.send (.packet p) true with sent := s.sent + 1, pc := .limits } ++
      CapturePc.held .limits = s.packets ++ s.pc.held := by
    rw [hpackets, hheld]
    exact List.append_nil _
  obtain ⟨hreason, hnone⟩ := h.early hearly
  have hreports : ∀ stats,
      ¬ Reports { s.send (.packet p) true with sent := s.sent + 1, pc := .limits } stats := by
    rintro stats (hat | hsent)
    · cases hat
    · exact hnone stats (.inr (reported_of_concat (by simp) (by simp) hsent))
  refine { fresh := nofun, sent := ?_, bytes := fun _ => ?_, counted := fun _ => ?_,
           sequence := ?_, tagged := ?_, early := fun _ => ⟨hreason, hreports⟩,
           reported := fun _ stats hs => absurd hs (hreports stats), outcome := by simp,
           mostPackets := fun hne => ⟨?_, nofun⟩, mostBytes := fun hne => ⟨?_, nofun⟩ }
  · rw [hpackets, List.length_append, ← h.sent]
    rfl
  · rw [hall]
    exact h.bytes hearly
  · rw [hall]
    exact h.counted (by rw [hreason]; simp)
  · rw [hall]
    exact h.sequence
  · rw [hall]
    exact h.tagged
  · -- The limits were looked at before this packet was waited for.
    rw [hpackets, List.length_append, List.length_singleton]
    exact (h.mostPackets hne).2 hclear
  · rw [hpackets, List.dropLast_concat]
    exact (h.mostBytes hne).2 hclear

/-- What was held is lost. -/
theorem Kept.hungUp (h : s.Kept) : Kept (s.break_ .clientDisconnected) := by
  have hall : (s.break_ .clientDisconnected).packets ++ (s.break_ .clientDisconnected).pc.held =
      s.packets := List.append_nil _
  refine { fresh := nofun, sent := h.sent, bytes := nofun, counted := fun hne => absurd rfl hne,
           sequence := ?_, tagged := ?_, early := nofun, reported := fun hne => absurd rfl hne,
           outcome := by simp [break_], mostPackets := fun hne => ⟨(h.mostPackets hne).1, nofun⟩,
           mostBytes := fun hne => ⟨(h.mostBytes hne).1, nofun⟩ }
  · rw [hall]
    exact h.sequence_sent
  · rw [hall]
    intro q hq
    exact h.tagged q (List.mem_append_left _ hq)

/-- Every step keeps the counters together. -/
theorem Effect.kept (h : s.Kept) (he : Effect t s s') : s'.Kept := by
  cases he with
  -- The flag from outside, which the loop has not seen yet.
  | stopped =>
    refine h.quiet { packets := rfl, held := rfl, fresh := id, early := ?_, reason := .inr rfl,
                     reported := fun _ hs => .inl hs, outcome := ?_, cleared := .inl }
    · intro hearly
      exact ⟨hearly, rfl, fun _ hs => hs⟩
    · rintro outcome (hat | hat)
      · exact .inl hat
      · exact .inr (.inl ((h.outcome outcome (.inr hat)).trans h.sent.symm))
  -- The start frame is no packet and carries no counts.
  | announced now hpc =>
    have hearly : s.pc.early = true := by rw [hpc]; rfl
    have hheld : s.pc.held = [] := by rw [hpc]; rfl
    have hreports : ∀ stats, Reports { s.send (.captureStarted (s.started now)) true with
        pc := .limits } stats → s.Reports stats := by
      rintro stats (hat | hsent)
      · cases hat
      · exact .inr (reported_of_concat (by simp) (by simp) hsent)
    exact h.quiet { packets := filterMap_send s.frames rfl true, held := by rw [hheld]; rfl,
                    fresh := nofun, early := fun _ => ⟨hearly, rfl, hreports⟩,
                    reason := .inr rfl, reported := fun stats hs => .inl (hreports stats hs),
                    outcome := by simp, cleared := nofun }
  | unheard hpc =>
    exact h.quiet (quiet_leave hpc ⟨rfl, rfl⟩ (.inr ⟨_, rfl, .inr ⟨rfl, rfl⟩⟩))
  | overPackets hpc hne hle => exact h.quiet (quiet_leave hpc ⟨rfl, rfl⟩ (.inl rfl))
  | overBytes hpc hpackets hne hle => exact h.quiet (quiet_leave hpc ⟨rfl, rfl⟩ (.inl rfl))
  -- Past the limits, `cleared` remembers that they were met.
  | within hpc hpackets hbytes =>
    exact h.quiet (quiet_move rfl hpc ⟨rfl, rfl⟩ ⟨rfl, rfl, nofun⟩ (.inr ⟨hpackets, hbytes⟩))
  | polled hpc =>
    exact h.quiet (quiet_move rfl hpc ⟨rfl, rfl⟩ ⟨rfl, rfl, nofun⟩ (.inl rfl))
  | elapsed hpc =>
    rcases hpc with hpc | hpc
    · exact h.quiet (quiet_leave hpc ⟨rfl, rfl⟩ (.inl rfl))
    · exact h.quiet (quiet_leave hpc ⟨rfl, rfl⟩ (.inl rfl))
  | flagged hpc hstop => exact h.quiet (quiet_leave hpc ⟨rfl, rfl⟩ (.inl rfl))
  | waits hpc hstop =>
    exact h.quiet (quiet_move rfl hpc ⟨rfl, rfl⟩ ⟨rfl, rfl, nofun⟩ (.inl rfl))
  | passedOver filteredOut hpc =>
    exact h.quiet (quiet_move rfl hpc ⟨rfl, rfl⟩ ⟨rfl, rfl, nofun⟩ (.inl rfl))
  | took bytes p hpc hsequence hid => exact h.took hpc bytes hsequence hid
  | failed error hpc =>
    exact h.quiet (quiet_leave hpc ⟨rfl, rfl⟩ (.inr ⟨_, rfl, .inl rfl⟩))
  | delivered p hpc => exact h.delivered hpc
  | hungUp p hpc => exact h.hungUp
  | reported drops delivered hpc => exact h.quiet (quiet_report hpc drops delivered)
  | finished stats reason delivered hpc hreason =>
    exact h.quiet (quiet_finish hpc reason delivered)
  -- The end frame carries the outcome, and no other counts.
  | closed outcome hpc =>
    refine h.quiet { packets := rfl, held := by rw [hpc]; rfl, fresh := nofun, early := nofun,
                     reason := .inr rfl, reported := ?_, outcome := ?_, cleared := nofun }
    · rintro stats (hat | hsent)
      · cases hat
      · exact .inl (.inr hsent)
    · rintro o (hat | hat) <;> cases hat
      exact .inl hpc

/-- Wherever a capture gets to. -/
theorem kept_of_run {os : OpenCalls} {request : StartCaptureRequest} {c : CaptureSocket}
    {id : Nat} (hopen : CaptureSocket.open os request = .ok c)
    (hrun : Runs.Steps (step t) (fun _ _ => True) (init request id c) s) : s.Kept := by
  obtain ⟨-, -, hpackets, -⟩ := CaptureSocket.open_fresh hopen
  refine hrun.invariant (kept_init hpackets) ?_
  intro s a s' h _ hs
  exact (step_effect hs).kept h

/-- No step changes what was asked for. -/
theorem Effect.request (he : Effect t s s') : s'.request = s.request := by
  cases he <;> first | rfl | rw [send_eq]

/-- A capture serves the request it was started with. -/
theorem request_of_run {request : StartCaptureRequest} {c : CaptureSocket} {id : Nat}
    (hrun : Runs.Steps (step t) (fun _ _ => True) (init request id c) s) :
    s.request = request := by
  induction hrun with
  | refl => rfl
  | tail a _ _ hs ih => exact (step_effect hs).request.trans ih

/-! ### The end of a capture -/

/-- Once the loop is left, a client that still listens gets the numbers of the capture, and the
    call returns with the number of packets sent. -/
theorem reaches_returned {reason : Reason} (hpc : s.pc = .reporting)
    (hreason : s.reason = some reason) (drops : Nat) :
    ∃ s', Runs.Steps (step t) (fun _ _ => True) s s' ∧
      s'.frames = s.frames ++ [.captureStats (s.socket.stats s.captureId drops),
        .captureFinished s.captureId (s.socket.stats s.captureId drops) reason.text] ∧
      s'.pc = .returned (.done s!"capture finished: {reason.text}" s.sent) := by
  -- The three steps that are left, with every reply delivered.
  let stats := s.socket.stats s.captureId drops
  let outcome := Ipc.StreamOutcome.done s!"capture finished: {reason.text}" s.sent
  let frames := s.frames ++ [.captureStats stats]
  let frames' := frames ++ [.captureFinished s.captureId stats reason.text]
  have hreport : s.step t (.report drops true) =
      some { s with frames, pc := .finishing stats } := by
    simp [step, hpc, send, frames, stats]
  have hfinish : step t { s with frames, pc := .finishing stats } (.reply true) =
      some { s with frames := frames', pc := .closing outcome } := by
    simp [step, hreason, send, frames', outcome]
  have hclose : step t { s with frames := frames', pc := .closing outcome } .finish =
      some { s with frames := frames', pc := .returned outcome } := rfl
  refine ⟨_, ((Runs.Steps.refl s).tail _ trivial hreport).tail _ trivial hfinish
    |>.tail _ trivial hclose, ?_, rfl⟩
  show s.frames ++ [.captureStats stats] ++ [_] = _
  rw [List.append_assoc]
  rfl

/-- **The limits and the counters of a capture**, wherever it stands: its limits hold, what was
    sent has the sequence numbers from one on, what was counted was sent or is about to be, and
    an end by a limit, the deadline or the stop flag is reported with the number of packets
    sent. -/
theorem capture_counts {os : OpenCalls} {request : StartCaptureRequest} {c : CaptureSocket}
    {id : Nat} (hopen : CaptureSocket.open os request = .ok c)
    (hrun : Runs.Steps (step t) (fun _ _ => True) (init request id c) s) :
    (request.maxPackets ≠ 0 → s.packets.length ≤ request.maxPackets) ∧
      (request.maxBytes ≠ 0 → wireBytes s.packets.dropLast < request.maxBytes) ∧
      s.packets.map (·.sequence) = List.range' 1 s.packets.length ∧
      (s.reason ≠ some .clientDisconnected →
        s.socket.packets = (s.packets ++ s.pc.held).length) ∧
      ∀ reason, s.reason = some reason → reason ≠ .clientDisconnected →
        (∀ stats, s.Reports stats → stats.packetsCaptured = s.packets.length) ∧
        (∀ outcome, s.pc = .closing outcome ∨ s.pc = .returned outcome →
          outcome.itemsSent = s.packets.length) ∧
        (s.pc = .reporting → ∀ drops, ∃ s' stats,
          Runs.Steps (step t) (fun _ _ => True) s s' ∧
          stats.packetsCaptured = s.packets.length ∧
          s'.frames = s.frames ++ [.captureStats stats,
            .captureFinished s.captureId stats reason.text] ∧
          s'.pc = .returned (.done s!"capture finished: {reason.text}" s.packets.length) ∧
          stats.packetsDroppedKernel = drops) := by
  have h := kept_of_run hopen hrun
  have hrequest := request_of_run hrun
  rw [← hrequest]
  refine ⟨fun hne => (h.mostPackets hne).1, fun hne => (h.mostBytes hne).1, h.sequence_sent,
    h.counted, fun reason hreason hne => ?_⟩
  -- While the client is there, every packet taken has been sent or is in hand.
  have hconnected : s.reason ≠ some .clientDisconnected := by
    rw [hreason]
    simpa using hne
  refine ⟨h.reported hconnected, h.outcome, fun hpc drops => ?_⟩
  obtain ⟨s', hsteps, hframes, hreturned⟩ := reaches_returned (t := t) hpc hreason drops
  refine ⟨s', s.socket.stats s.captureId drops, hsteps, ?_, hframes, ?_, rfl⟩
  · show s.socket.packets = _
    rw [h.counted hconnected, hpc]
    exact congrArg List.length (List.append_nil _)
  · rw [hreturned, h.sent]

/-- The loop from its head to the packet made of a frame of these bytes, and its reply. -/
def onePacket (bytes : List UInt8) : List Action :=
  [.check, .poll, .look, .recv .wouldBlock, .look,
    .recv (.frame { bytes, now := Calls.reading }), .reply true]

/-- Two packets, and the third is not waited for. -/
theorem capture_counts_two :
    ∃ c s, CaptureSocket.open Calls.rmnet { interfaceName := "rmnet0", maxPackets := 2 } = .ok c ∧
      Runs.Steps (step ⟨64, by decide⟩) (fun _ _ => True)
        (init { interfaceName := "rmnet0", maxPackets := 2 } 7 c) s ∧
      s.reason = some .maxPackets ∧ s.pc = .reporting ∧ s.packets.length = 2 ∧
      s.packets.map (·.sequence) = [1, 2] ∧ s.socket.packets = 2 := by
  obtain ⟨s, hrun, hreason, hpc, htwo⟩ : ∃ s, Runs.Steps (step ⟨64, by decide⟩) (fun _ _ => True)
      (init { interfaceName := "rmnet0", maxPackets := 2 } 7
        ⟨.raw, 3, "rmnet0", 262144, false, 0, 0, 0⟩) s ∧
      s.reason = some .maxPackets ∧ s.pc = .reporting ∧ s.packets.length = 2 := by
    apply Runs.Steps.exists_of_exec (List.flatten [[.announce 0 true], onePacket [0x45, 0, 0, 4],
      onePacket [0x45, 0, 0], [.check]])
    decide +kernel
  have hopen : CaptureSocket.open Calls.rmnet { interfaceName := "rmnet0", maxPackets := 2 } =
      .ok ⟨.raw, 3, "rmnet0", 262144, false, 0, 0, 0⟩ := by
    decide +kernel
  obtain ⟨-, -, hsequence, hcounted, -⟩ := capture_counts hopen hrun
  refine ⟨_, s, hopen, hrun, hreason, hpc, htwo, ?_, ?_⟩
  · rw [hsequence, htwo]
    rfl
  · rw [hcounted (by rw [hreason]; decide), hpc, List.length_append, htwo]
    rfl

end CaptureCall

end Netdiag.Capture
