import Netdiag.Capture.Decode

namespace Netdiag.Capture

/-!
# Capture — the socket

`Capture` of `daemon/src/capture.rs`: `open`, `passes` and the loop of `next_packet`.  What the
socket brings, when, and when another task sets the stop flag are inputs.

* `CaptureSocket.receive` — what `next_packet` does with one frame; `CaptureSocket.nextPacket` — its
  loop.
* `Calls` — one call of `next_packet` after the other, with the frames they read.
* `Calls.Faithful` — a packet has the length its frame had on the wire, and the byte counter
  is the sum of these; `Calls.Fits` — no accepted frame is longer than the buffer.

The buffer has `snaplen` bytes, and the kernel reports no more than it copied: the length of a
longer frame is gone by the time the packet is made.
-/

open Checked

/-! ### Filters -/

/-- `CaptureFilter`; the enumerations are the `i32` of the message. -/
structure CaptureFilter where
  hosts : List IpAddress := []
  ports : List (BitVec 32) := []
  families : List Int := []
  tcp : Bool := false
  udp : Bool := false
  icmp : Bool := false
  arp : Bool := false
  bpfExpression : String := ""
  deriving DecidableEq, Repr

/-- `IpFamily as i32`. -/
def familyNumber : IpFamily → Int
  | .unspecified => 0
  | .v4 => 1
  | .v6 => 2

/-- `passes`. -/
def passes (summary : PacketSummary) (filter : CaptureFilter) : Bool :=
  let protocolSelected := filter.tcp || filter.udp || filter.icmp || filter.arp
  let protocolMatched := (filter.tcp && summary.ipProtocol == 6) ||
    (filter.udp && summary.ipProtocol == 17) ||
    (filter.icmp && (summary.ipProtocol == 1 || summary.ipProtocol == 58)) ||
    (filter.arp && summary.protocolName == "ARP")
  let hostMatched := filter.hosts.any fun h =>
    some h.addr == summary.source.map (·.addr) || some h.addr == summary.destination.map (·.addr)
  let portMatched := filter.ports.contains summary.sourcePort ||
    filter.ports.contains summary.destinationPort
  -- A filter that selects nothing lets everything through.
  if protocolSelected && !protocolMatched then false
  else if !filter.families.isEmpty && !filter.families.contains (familyNumber summary.family) then
    false
  else if !filter.hosts.isEmpty && !hostMatched then false
  else if !filter.ports.isEmpty && !portMatched then false
  else true

/-! ### The socket -/

/-- `StartCaptureRequest`. -/
structure StartCaptureRequest where
  interfaceName : String := ""
  filter : Option CaptureFilter := none
  snaplen : UInt32 := 0
  maxPackets : Nat := 0
  maxBytes : Nat := 0
  promiscuous : Bool := false
  includePayload : Bool := false
  deriving DecidableEq, Repr

/-- `DEFAULT_SNAPLEN`. -/
def defaultSnaplen : UInt32 := 262144

/-- The bytes kept of a packet: zero stands for the default. -/
def StartCaptureRequest.keptBytes (request : StartCaptureRequest) : UInt32 :=
  if request.snaplen = 0 then defaultSnaplen else request.snaplen

/-- `link_type_for`. -/
def linkTypeFor (name : String) : LinkType :=
  if ["rmnet", "ccmni", "pdp", "tun", "v4-", "ppp"].any (name.startsWith ·) then .raw else .ethernet

/-- `Capture`; the socket itself is what `Wake` brings. -/
structure CaptureSocket where
  linkType : LinkType
  interfaceIndex : UInt32
  interfaceName : String
  snaplen : UInt32
  stop : Bool
  packets : Nat
  bytes : Nat
  filteredOut : Nat
  deriving DecidableEq, Repr

/-- What the kernel answers to the calls of `Capture::open`; an error is given by its text. -/
structure OpenCalls where
  socket : Option String := none
  interfaceIndex : String → Option UInt32 := fun _ => none
  bind : Option String := none
  promiscuous : Option String := none
  nonblocking : Option String := none

/-- The step fails with this error, if any. -/
def check (error : Option String) : Except String Unit :=
  match error with
  | some e => .error e
  | none => .ok ()

/-- The interface to capture on: its index and name, and none of its own for every one. -/
def OpenCalls.interface (os : OpenCalls) (request : StartCaptureRequest) :
    Except String (UInt32 × String) :=
  if request.interfaceName.isEmpty then .ok (0, "any")
  else
    match os.interfaceIndex request.interfaceName with
    | some index => .ok (index, request.interfaceName)
    | none => .error s!"no interface named {request.interfaceName}"

/-- `Capture::open`. -/
def CaptureSocket.open (os : OpenCalls) (request : StartCaptureRequest) :
    Except String CaptureSocket := do
  check (os.socket.map fun _ => "could not open an AF_PACKET socket (CAP_NET_RAW required)")
  let (index, name) ← os.interface request
  check (if index ≠ 0 then os.bind else none)
  check (if request.promiscuous ∧ index ≠ 0 then os.promiscuous else none)
  check os.nonblocking
  return {
    -- A single interface's link type is guessed from its name.
    linkType := if index = 0 then .linuxSll else linkTypeFor name
    interfaceIndex := index
    interfaceName := name
    snaplen := request.keptBytes
    stop := false
    packets := 0
    bytes := 0
    filteredOut := 0 }

/-- A frame on the wire, as `recvfrom` finds it, and the clock when it is read. -/
structure Frame where
  bytes : List UInt8
  outgoing : Bool := false
  ifindex : UInt32 := 0
  now : Clock
  deriving DecidableEq, Repr

/-- `CapturedPacket`. -/
structure CapturedPacket extends App.CapturedPacket where
  captureId : Nat
  sequence : Nat
  interfaceIndex : UInt32
  interfaceName : String
  outgoing : Bool
  summary : PacketSummary
  deriving DecidableEq, Repr

/-- The readable socket brings something. -/
inductive SocketEvent
  | frame (f : Frame)
  | error (e : String)
  | wouldBlock
  deriving DecidableEq, Repr

/-- The socket becomes readable; by then another task may have set the stop flag. -/
structure Wake where
  stop : Bool := false
  event : SocketEvent
  deriving DecidableEq, Repr

/-- What `next_packet` returns; `packet` also names the frame it was made of. -/
inductive Next
  | packet (f : Frame) (p : CapturedPacket)
  | stopped
  | failed (e : String)
  deriving DecidableEq, Repr

section Loop

variable (t : Target) (filter : CaptureFilter) (includePayload : Bool)

/-- What is decoded of a frame: the octets that fit the buffer. -/
def CaptureSocket.decodeFrame (c : CaptureSocket) (f : Frame) : Run Empty PacketSummary :=
  let (buf, len) := recvWithAddr c.snaplen.toNat f.bytes
  decode t.bits ((buf.take (min len c.snaplen.toNat)).map UInt8.toBitVec) c.linkType

/-- `next_packet` with one frame: no packet if the filter does not pass it. -/
def CaptureSocket.receive (c : CaptureSocket) (f : Frame) :
    Run Empty (Option CapturedPacket × CaptureSocket) := do
  let summary ← c.decodeFrame t f
  -- A frame that the filter drops counts in none of the other counters.
  if !passes summary filter then return (none, { c with filteredOut := c.filteredOut + 1 })
  else
    let c := { c with
      packets := c.packets + 1
      bytes := c.bytes + (recvWithAddr c.snaplen.toNat f.bytes).2 }
    return (some {
      toCapturedPacket := nextPacket c.snaplen includePayload f.now f.bytes
      captureId := 0
      sequence := c.packets
      -- A capture of all interfaces has none of its own.
      interfaceIndex := if f.ifindex ≠ 0 then f.ifindex else c.interfaceIndex
      interfaceName := c.interfaceName
      outgoing := f.outgoing
      summary := summary }, c)

/-- The body of the loop, from the readiness on; `none` goes round again. -/
def CaptureSocket.onEvent (c : CaptureSocket) :
    SocketEvent → Run Empty (Option Next × CaptureSocket)
  | .wouldBlock => return (none, c)
  | .error e => return (some (.failed e), c)
  | .frame f => do
    let (packet, c) ← c.receive t filter includePayload f
    return (packet.map (.packet f), c)

/-- `next_packet`, as far as it gets with these wakes: what it returns, unless it still waits,
    and the wakes that are left.  The flag is looked at before each wait, not after it. -/
def CaptureSocket.nextPacket (c : CaptureSocket) :
    List Wake → Run Empty (Option Next × CaptureSocket × List Wake)
  | [] => return (if c.stop then some .stopped else none, c, [])
  | wake :: wakes =>
    -- The flag is looked at before each wait.
    if c.stop then return (some .stopped, c, wake :: wakes)
    else do
      let (next, c) ← { c with stop := wake.stop }.onEvent t filter includePayload wake.event
      match next with
      | some next => return (some next, c, wakes)
      -- Spurious or filtered out: wait again.
      | none => c.nextPacket wakes

end Loop

/-- Steps that end well have each ended well. -/
theorem exists_of_bind_eq_ok {α β : Type} {m : Except String α} {k : α → Except String β} {y : β}
    (h : m >>= k = .ok y) : ∃ x, m = .ok x ∧ k x = .ok y := by
  cases m with
  | error e => cases h
  | ok x => exact ⟨x, rfl, h⟩

/-- A capture that has just been opened has counted nothing. -/
theorem CaptureSocket.open_fresh {os : OpenCalls} {request : StartCaptureRequest}
    {c : CaptureSocket} (h : CaptureSocket.open os request = .ok c) :
    c.snaplen = request.keptBytes ∧ c.stop = false ∧ c.packets = 0 ∧ c.bytes = 0 := by
  unfold CaptureSocket.open at h
  -- Every step before the last only decides whether there is a capture.
  obtain ⟨-, -, h⟩ := exists_of_bind_eq_ok h
  obtain ⟨interface, -, h⟩ := exists_of_bind_eq_ok h
  obtain ⟨-, -, h⟩ := exists_of_bind_eq_ok h
  obtain ⟨-, -, h⟩ := exists_of_bind_eq_ok h
  obtain ⟨-, -, h⟩ := exists_of_bind_eq_ok h
  cases h
  exact ⟨rfl, rfl, rfl, rfl⟩

/-! ### One frame -/

variable {t : Target} {filter : CaptureFilter} {includePayload : Bool} {c c' : CaptureSocket}
  {f : Frame}

/-- The frame passes the filter, as far as the buffer holds it. -/
def CaptureSocket.accepts (t : Target) (filter : CaptureFilter) (c : CaptureSocket) (f : Frame) :
    Bool :=
  match c.decodeFrame t f with
  | .ok summary => passes summary filter
  | .error _ => false

theorem CaptureSocket.decodeFrame_ok (t : Target) (c : CaptureSocket) (f : Frame) :
    ∃ summary, c.decodeFrame t f = .ok summary := by
  have hbits : 2 ^ 16 ≤ 2 ^ t.bits := le_trans (by decide) t.word_le
  obtain ⟨summary, hsummary, -⟩ := (decode_returns hbits _ c.linkType).exists_ok
  exact ⟨summary, hsummary⟩

/-- What a capture is never changes. -/
structure CaptureSocket.Same (c c' : CaptureSocket) : Prop where
  linkType : c'.linkType = c.linkType
  snaplen : c'.snaplen = c.snaplen

theorem CaptureSocket.Same.accepts (h : c.Same c') (t : Target) (filter : CaptureFilter) :
    c'.accepts t filter = c.accepts t filter := by
  funext f
  unfold CaptureSocket.accepts decodeFrame
  rw [h.linkType, h.snaplen]

/-- A frame is counted as filtered out, or it is counted and becomes the next packet. -/
theorem CaptureSocket.receive_spec (t : Target) (filter : CaptureFilter) (includePayload : Bool)
    (c : CaptureSocket) (f : Frame) :
    (c.accepts t filter f = false ∧ c.receive t filter includePayload f =
        .ok (none, { c with filteredOut := c.filteredOut + 1 })) ∨
      (c.accepts t filter f = true ∧ ∃ p, c.receive t filter includePayload f =
        .ok (some p, { c with
          packets := c.packets + 1
          bytes := c.bytes + min f.bytes.length c.snaplen.toNat }) ∧
        p.sequence = c.packets + 1 ∧
        p.toCapturedPacket = Capture.nextPacket c.snaplen includePayload f.now f.bytes) := by
  -- Decoding never fails, so the filter alone decides.
  obtain ⟨summary, hsummary⟩ := c.decodeFrame_ok t f
  unfold accepts receive
  rw [hsummary, ok_bind]
  cases hpass : passes summary filter with
  | false => exact .inl ⟨hpass, rfl⟩
  | true => exact .inr ⟨hpass, _, rfl, rfl, rfl⟩

/-! ### One call -/

/-- The frame a wake brings. -/
def Wake.frame (wake : Wake) : Option Frame :=
  match wake.event with
  | .frame f => some f
  | _ => none

/-- A call that reads on to the end of the wakes returned nothing, and accepted no frame. -/
structure CaptureSocket.Idle (t : Target) (filter : CaptureFilter) (c c' : CaptureSocket)
    (frames : List Frame) : Prop where
  same : c.Same c'
  accepted : frames.filter (c.accepts t filter) = []
  packets : c'.packets = c.packets
  bytes : c'.bytes = c.bytes

/-- A call that returned a packet accepted one frame, and counted that. -/
structure CaptureSocket.Took (t : Target) (filter : CaptureFilter) (includePayload : Bool)
    (c c' : CaptureSocket) (frames : List Frame) (f : Frame) (p : CapturedPacket) : Prop where
  same : c.Same c'
  accepted : frames.filter (c.accepts t filter) = [f]
  packets : c'.packets = c.packets + 1
  bytes : c'.bytes = c.bytes + min f.bytes.length c.snaplen.toNat
  sequence : p.sequence = c'.packets
  packet : p.toCapturedPacket = Capture.nextPacket c.snaplen includePayload f.now f.bytes

/-- A capture and its calls look the same from two states with the same counters. -/
theorem CaptureSocket.Idle.congr {c₀ : CaptureSocket} {frames : List Frame}
    (h : c.Idle t filter c' frames) (hsame : c₀.Same c) (hpackets : c.packets = c₀.packets)
    (hbytes : c.bytes = c₀.bytes) : c₀.Idle t filter c' frames where
  same := ⟨h.same.linkType.trans hsame.linkType, h.same.snaplen.trans hsame.snaplen⟩
  accepted := by rw [← hsame.accepts]; exact h.accepted
  packets := h.packets.trans hpackets
  bytes := h.bytes.trans hbytes

theorem CaptureSocket.Took.congr {c₀ : CaptureSocket} {frames : List Frame} {p : CapturedPacket}
    (h : c.Took t filter includePayload c' frames f p) (hsame : c₀.Same c)
    (hpackets : c.packets = c₀.packets) (hbytes : c.bytes = c₀.bytes) :
    c₀.Took t filter includePayload c' frames f p where
  same := ⟨h.same.linkType.trans hsame.linkType, h.same.snaplen.trans hsame.snaplen⟩
  accepted := by rw [← hsame.accepts]; exact h.accepted
  packets := by rw [h.packets, hpackets]
  bytes := by rw [h.bytes, hbytes, hsame.snaplen]
  sequence := h.sequence
  packet := by rw [h.packet, hsame.snaplen]

/-- What a call of `next_packet` does with everything it reads. -/
theorem CaptureSocket.nextPacket_spec {wakes : List Wake} {next : Option Next}
    (h : c.nextPacket t filter includePayload wakes = .ok (next, c', [])) :
    ((∀ f p, next ≠ some (.packet f p)) ∧ c.Idle t filter c' (wakes.filterMap Wake.frame)) ∨
      ∃ f p, next = some (.packet f p) ∧
        c.Took t filter includePayload c' (wakes.filterMap Wake.frame) f p := by
  induction wakes generalizing c with
  | nil =>
    rw [nextPacket] at h
    cases h
    refine .inl ⟨fun f p => ?_, ⟨⟨rfl, rfl⟩, rfl, rfl, rfl⟩⟩
    split <;> simp
  | cons wake wakes ih =>
    obtain ⟨stop, event⟩ := wake
    rw [nextPacket] at h
    split at h
    · cases h
    · cases event with
      | wouldBlock =>
        rcases ih (c := { c with stop }) h with ⟨hnone, hidle⟩ | ⟨g, q, hnext, htook⟩
        · exact .inl ⟨hnone, hidle.congr ⟨rfl, rfl⟩ rfl rfl⟩
        · exact .inr ⟨g, q, hnext, htook.congr ⟨rfl, rfl⟩ rfl rfl⟩
      | error e =>
        cases h
        exact .inl ⟨fun f p => by simp, ⟨⟨rfl, rfl⟩, rfl, rfl, rfl⟩⟩
      | frame f =>
        have hframes : (Wake.mk stop (.frame f) :: wakes).filterMap Wake.frame =
            f :: wakes.filterMap Wake.frame := rfl
        rw [hframes]
        rcases receive_spec t filter includePayload { c with stop } f with
          ⟨hskip, hr⟩ | ⟨hacc, p, hr, hseq, hp⟩
        · -- Filtered out: the rest of the call is as if the frame had not come.
          have hskip : ¬ c.accepts t filter f = true := by
            rw [Bool.not_eq_true]
            exact hskip
          simp only [onEvent, hr, ok_bind] at h
          rcases ih h with ⟨hnone, hidle⟩ | ⟨g, q, hnext, htook⟩
          · have hidle : c.Idle t filter c' _ := hidle.congr ⟨rfl, rfl⟩ rfl rfl
            refine .inl ⟨hnone, { hidle with accepted := ?_ }⟩
            rw [List.filter_cons_of_neg hskip]
            exact hidle.accepted
          · have htook : c.Took t filter includePayload c' _ g q :=
              htook.congr ⟨rfl, rfl⟩ rfl rfl
            refine .inr ⟨g, q, hnext, { htook with accepted := ?_ }⟩
            rw [List.filter_cons_of_neg hskip]
            exact htook.accepted
        · -- Accepted: the call returns here, so no wake is left.
          simp only [onEvent, hr, ok_bind] at h
          cases h
          refine .inr ⟨f, p, rfl, ⟨rfl, rfl⟩, ?_, rfl, rfl, hseq, hp⟩
          have hacc : c.accepts t filter f = true := hacc
          rw [List.filter_cons_of_pos hacc]
          rfl

/-! ### One call after the other -/

/-- A capture in use: every frame that was read, and every packet that was returned with the
    frame it was made of. -/
structure Calls where
  socket : CaptureSocket
  frames : List Frame
  returned : List (Frame × CapturedPacket)
  deriving DecidableEq, Repr

/-- What happens to a capture. -/
inductive CallAction
  /-- `next_packet` is called, and gets this far with what the socket brings. -/
  | call (wakes : List Wake)
  /-- Another task sets the stop flag. -/
  | stop
  deriving DecidableEq, Repr

namespace Calls

variable {s s' : Calls} {a : CallAction} {snaplen : UInt32}

/-- A capture that has just been opened. -/
def init (socket : CaptureSocket) : Calls := { socket, frames := [], returned := [] }

/-- The packet a call returned, if it did. -/
def packetOf : Option Next → List (Frame × CapturedPacket)
  | some (.packet f p) => [(f, p)]
  | _ => []

/-- One thing happens.  A call reads all the wakes it is given. -/
def step (t : Target) (filter : CaptureFilter) (includePayload : Bool) (s : Calls) :
    CallAction → Option Calls
  | .stop => some { s with socket := { s.socket with stop := true } }
  | .call wakes =>
    match s.socket.nextPacket t filter includePayload wakes with
    | .ok (next, socket, []) =>
      some { socket
             frames := s.frames ++ wakes.filterMap Wake.frame
             returned := s.returned ++ packetOf next }
    | _ => none

/-- Every packet has the beginning of its frame that `snaplen` allows and the frame's length
    on the wire, and the byte counter is the sum of these lengths. -/
def Faithful (snaplen : UInt32) (includePayload : Bool) (s : Calls) : Prop :=
  (∀ q ∈ s.returned,
    q.2.data = (if includePayload then
      q.1.bytes.take (min q.1.bytes.length snaplen.toNat) else []) ∧
    q.2.originalLength.toNat = q.1.bytes.length) ∧
  s.socket.bytes = (s.returned.map fun q => q.1.bytes.length).sum

/-- No frame that was accepted is longer than `snaplen`. -/
def Fits (t : Target) (filter : CaptureFilter) (snaplen : UInt32) (s : Calls) : Prop :=
  ∀ f ∈ s.frames, s.socket.accepts t filter f = true → f.bytes.length ≤ snaplen.toNat

/-- What a capture has done so far: the accepted frames, in order, became the packets, and the
    counter has what of each was copied. -/
structure Accounted (t : Target) (filter : CaptureFilter) (snaplen : UInt32)
    (includePayload : Bool) (s : Calls) : Prop where
  kept : s.socket.snaplen = snaplen
  accepted : s.returned.map Prod.fst = s.frames.filter (s.socket.accepts t filter)
  packet : ∀ q ∈ s.returned,
    q.2.toCapturedPacket = nextPacket snaplen includePayload q.1.now q.1.bytes
  bytes : s.socket.bytes = (s.returned.map fun q => min q.1.bytes.length snaplen.toNat).sum

theorem accounted_init (hbytes : c.bytes = 0) (hsnap : c.snaplen = snaplen) :
    Accounted t filter snaplen includePayload (init c) where
  kept := hsnap
  accepted := rfl
  packet q hq := by simp [init] at hq
  bytes := hbytes

theorem Accounted.step (h : Accounted t filter snaplen includePayload s)
    (hs : s.step t filter includePayload a = some s') :
    Accounted t filter snaplen includePayload s' := by
  cases a with
  | stop =>
    cases hs
    exact ⟨h.kept, h.accepted, h.packet, h.bytes⟩
  | call wakes =>
    simp only [Calls.step] at hs
    split at hs
    · rename_i next socket hnext
      cases hs
      -- The call gives no packet and accepts none, or gives the one it accepts.
      rcases CaptureSocket.nextPacket_spec hnext with ⟨hnone, hidle⟩ | ⟨f, p, rfl, htook⟩
      · have hret : packetOf next = [] := by
          unfold packetOf
          split
          · rename_i f p
            exact absurd rfl (hnone f p)
          · rfl
        refine ⟨hidle.same.snaplen.trans h.kept, ?_, ?_, ?_⟩
        · simp only [hret, List.append_nil, List.filter_append, hidle.same.accepts,
            hidle.accepted]
          exact h.accepted
        · rw [hret, List.append_nil]
          exact h.packet
        · rw [hret, List.append_nil, hidle.bytes]
          exact h.bytes
      · refine ⟨htook.same.snaplen.trans h.kept, ?_, ?_, ?_⟩
        · simp only [packetOf, List.map_append, List.filter_append, htook.same.accepts,
            htook.accepted, h.accepted]
          rfl
        · intro q hq
          rcases List.mem_append.mp hq with hq | hq
          · exact h.packet q hq
          · rw [packetOf, List.mem_singleton] at hq
            subst hq
            rw [htook.packet, h.kept]
        · simp only [packetOf, List.map_append, List.sum_append, htook.bytes, h.bytes, h.kept,
            List.map_cons, List.map_nil, List.sum_singleton]
    · cases hs

theorem accounted_of_run {ok : Calls → CallAction → Prop} (hbytes : c.bytes = 0)
    (hsnap : c.snaplen = snaplen) (hrun : Runs.Steps (step t filter includePayload) ok (init c) s) :
    Accounted t filter snaplen includePayload s :=
  hrun.invariant (accounted_init hbytes hsnap) fun _ _ _ h _ hs => h.step hs

/-- The data of a packet: what of the frame fits, if it is wanted. -/
theorem nextPacket_data (snaplen : UInt32) (includePayload : Bool) (now : Clock)
    (frame : List UInt8) :
    (nextPacket snaplen includePayload now frame).data =
      if includePayload then frame.take (min frame.length snaplen.toNat) else [] := by
  have hcopied : (frame.take snaplen.toNat).take
      (min (min frame.length snaplen.toNat) snaplen.toNat) =
        frame.take (min frame.length snaplen.toNat) := by
    rw [List.take_take]
    congr 1
    omega
  show (if includePayload then (frame.take snaplen.toNat).take
    (min (min frame.length snaplen.toNat) snaplen.toNat) else []) = _
  rw [hcopied]

/-- **What a capture says about the wire** is right exactly as long as no accepted frame is
    longer than `snaplen`. -/
theorem faithful_iff_fits {os : OpenCalls} {request : StartCaptureRequest}
    (hopen : CaptureSocket.open os request = .ok c)
    (hrun : Runs.Steps (step t filter request.includePayload) (fun _ _ => True) (init c) s) :
    s.Faithful request.keptBytes request.includePayload ↔
      s.Fits t filter request.keptBytes := by
  obtain ⟨hsnap, -, -, hbytes⟩ := CaptureSocket.open_fresh hopen
  have hacc := accounted_of_run hbytes hsnap hrun
  have hlength : ∀ q ∈ s.returned, q.2.originalLength.toNat =
      min q.1.bytes.length request.keptBytes.toNat := by
    intro q hq
    rw [hacc.packet q hq, nextPacket_originalLength]
  -- The frames of the packets are the accepted ones among those that were read.
  have hmem : ∀ f, (∃ p, (f, p) ∈ s.returned) ↔
      f ∈ s.frames ∧ s.socket.accepts t filter f = true := by
    intro f
    rw [← List.mem_filter, ← hacc.accepted]
    simp
  constructor
  · rintro ⟨hpackets, -⟩ f hf haccepts
    obtain ⟨p, hp⟩ := (hmem f).mpr ⟨hf, haccepts⟩
    have hwire : min f.bytes.length request.keptBytes.toNat = f.bytes.length :=
      (hlength (f, p) hp).symm.trans (hpackets (f, p) hp).2
    omega
  · intro hfits
    have hfit : ∀ q ∈ s.returned, q.1.bytes.length ≤ request.keptBytes.toNat := by
      intro q hq
      obtain ⟨hf, haccepts⟩ := (hmem q.1).mp ⟨q.2, hq⟩
      exact hfits q.1 hf haccepts
    refine ⟨fun q hq => ⟨?_, ?_⟩, ?_⟩
    · rw [hacc.packet q hq, nextPacket_data]
    · rw [hlength q hq]
      exact Nat.min_eq_left (hfit q hq)
    · rw [hacc.bytes]
      refine congrArg List.sum (List.map_congr_left fun q hq => ?_)
      exact Nat.min_eq_left (hfit q hq)

/-- A capture on a cellular interface that keeps four bytes of a packet. -/
def fourBytes : StartCaptureRequest :=
  { interfaceName := "rmnet0", snaplen := 4, includePayload := true }

/-- The kernel lets it be opened. -/
def rmnet : OpenCalls := { interfaceIndex := fun _ => some 3 }

/-- A reading of the clock. -/
def reading : Clock := ⟨1700000000, 0, by decide⟩

/-- A call that reads one frame. -/
def readFrame (bytes : List UInt8) : CallAction :=
  .call [{ event := .frame { bytes, now := reading } }]

/-- A frame of four bytes, and one of three. -/
theorem faithful_iff_fits_short :
    ∃ c s, CaptureSocket.open rmnet fourBytes = .ok c ∧
      Runs.Steps (step ⟨64, by decide⟩ {} true) (fun _ _ => True) (init c) s ∧
      s.returned.length = 2 ∧ s.Faithful 4 true := by
  obtain ⟨s, hrun, hlen, hshort⟩ : ∃ s, Runs.Steps (step ⟨64, by decide⟩ {} true)
      (fun _ _ => True) (init ⟨.raw, 3, "rmnet0", 4, false, 0, 0, 0⟩) s ∧
      s.returned.length = 2 ∧ ∀ f ∈ s.frames, f.bytes.length ≤ 4 := by
    apply Runs.Steps.exists_of_exec [readFrame [0x45, 0, 0, 4], readFrame [0x45, 0, 0]]
    decide +kernel
  have hopen : CaptureSocket.open rmnet fourBytes = .ok ⟨.raw, 3, "rmnet0", 4, false, 0, 0, 0⟩ := by
    decide +kernel
  exact ⟨_, s, hopen, hrun, hlen, (faithful_iff_fits hopen hrun).mpr fun f hf _ => hshort f hf⟩

/-- A frame of five bytes is reported, and counted, as one of four. -/
theorem truncated_length_lost :
    ∃ c s, CaptureSocket.open rmnet fourBytes = .ok c ∧
      Runs.Steps (step ⟨64, by decide⟩ {} true) (fun _ _ => True) (init c) s ∧
      (s.returned.map fun q => (q.1.bytes.length, q.2.originalLength)) = [(5, 4)] ∧
      s.socket.bytes = 4 ∧ ¬ s.Faithful 4 true := by
  obtain ⟨s, hrun, hpackets, hbytes⟩ : ∃ s, Runs.Steps (step ⟨64, by decide⟩ {} true)
      (fun _ _ => True) (init ⟨.raw, 3, "rmnet0", 4, false, 0, 0, 0⟩) s ∧
      (s.returned.map fun q => (q.1.bytes.length, q.2.originalLength)) = [(5, 4)] ∧
      s.socket.bytes = 4 := by
    apply Runs.Steps.exists_of_exec [readFrame [0x45, 0, 0, 5, 0]]
    decide +kernel
  have hopen : CaptureSocket.open rmnet fourBytes = .ok ⟨.raw, 3, "rmnet0", 4, false, 0, 0, 0⟩ := by
    decide +kernel
  refine ⟨_, s, hopen, hrun, hpackets, hbytes, fun hfaithful => ?_⟩
  have hq : ((5 : Nat), (4 : UInt32)) ∈
      s.returned.map fun q => (q.1.bytes.length, q.2.originalLength) := by
    rw [hpackets]
    exact List.mem_cons_self
  obtain ⟨q, hq, hlengths⟩ := List.mem_map.mp hq
  have hwire := (hfaithful.1 q hq).2
  rw [Prod.mk.injEq] at hlengths
  rw [hlengths.1, hlengths.2] at hwire
  exact absurd hwire (by decide)

end Calls

end Netdiag.Capture
