import Netdiag.App.Capture
import Netdiag.Lib.Pcap

namespace Netdiag.Capture

/-!
# Capture — from the socket to the file

The saved capture is written in two places: the daemon stamps the packets and makes the
file header (`next_packet` and `pcap_header` of `daemon/src/capture.rs`), the app writes both
to disk (`write_pcap`).

* `pcapHeader`, `recvWithAddr`, `nextPacket` — the daemon's half.
* `record_nextPacket` — a stamped packet as the app writes it: seconds and microseconds of
  the clock, through milliseconds and a remainder.
* `parse_writePcap` — the file read back as the classic pcap format.
-/

open Netdiag.App (CapturedPacket)

/-! ### The daemon's half -/

/-- `LinkType`. -/
inductive LinkType
  | unspecified
  | ethernet
  | raw
  | linuxSll
  | linuxSll2
  deriving DecidableEq, Repr

/-- `link_type as u32`. -/
def LinkType.toUInt32 : LinkType → UInt32
  | .unspecified => 0
  | .ethernet => 1
  | .raw => 101
  | .linuxSll => 113
  | .linuxSll2 => 276

/-- `u16::to_le_bytes`. -/
def le16 (x : UInt16) : List UInt8 := [x.toUInt8, (x >>> 8).toUInt8]

/-- `pcap_header`: magic number, version 2.4, time zone and accuracy zero, `snaplen`, link
    type. -/
def pcapHeader (linkType : LinkType) (snaplen : UInt32) : List UInt8 :=
  App.le32 0xa1b2c3d4 ++ le16 2 ++ le16 4 ++ List.replicate 8 0 ++ App.le32 snaplen ++
    App.le32 linkType.toUInt32

/-- A reading of the clock: the `Duration` since the Unix epoch. -/
structure Clock where
  secs : Nat
  nanos : Nat
  nanos_lt : nanos < 10 ^ 9
  deriving DecidableEq, Repr

/-- `Duration::as_millis`. -/
def Clock.asMillis (now : Clock) : Nat := now.secs * 1000 + now.nanos / 1000000

/-- `Duration::subsec_micros`. -/
def Clock.subsecMicros (now : Clock) : Nat := now.nanos / 1000

/-- `recv_with_addr` into a buffer of `size` bytes: what of the frame fits, and its count.
    Without `MSG_TRUNC` the count is that of the bytes copied. -/
def recvWithAddr (size : Nat) (frame : List UInt8) : List UInt8 × Nat :=
  (frame.take size, min frame.length size)

/-- The packet `next_packet` returns for a frame that passes the filter, read at `now`; the
    fields the app uses. -/
def nextPacket (snaplen : UInt32) (includePayload : Bool) (now : Clock) (frame : List UInt8) :
    CapturedPacket :=
  let (buf, len) := recvWithAddr snaplen.toNat frame
  let data := buf.take (min len snaplen.toNat)
  { -- `as i64`
    unixMs := Int.bmod now.asMillis (2 ^ 64)
    unixUsFraction := UInt32.ofNat (now.subsecMicros % 1000)
    originalLength := UInt32.ofNat len
    data := if includePayload then data else [] }

/-! ### A stamped packet on disk -/

section Packet

variable {snaplen : UInt32} {includePayload : Bool} {now : Clock} {frame : List UInt8}

/-- The captured bytes are a beginning of the frame that fits the buffer. -/
theorem nextPacket_data_length :
    (nextPacket snaplen includePayload now frame).data.length ≤ min frame.length snaplen.toNat := by
  unfold nextPacket recvWithAddr
  cases includePayload with
  | false => simp
  | true => simp

/-- The original length of a packet is what was left of the frame. -/
theorem nextPacket_originalLength :
    (nextPacket snaplen includePayload now frame).originalLength.toNat =
      min frame.length snaplen.toNat := by
  have hs := snaplen.toNat_lt
  show (UInt32.ofNat (min frame.length snaplen.toNat)).toNat = _
  rw [UInt32.toNat_ofNat']
  exact Nat.mod_eq_of_lt (by omega)

/-- A time before the year 2106 keeps its milliseconds. -/
theorem nextPacket_unixMs (h : now.secs < 2 ^ 32) :
    (nextPacket snaplen includePayload now frame).unixMs = now.asMillis := by
  have hn := now.nanos_lt
  have hm : now.asMillis < 2 ^ 43 := by
    unfold Clock.asMillis
    omega
  unfold nextPacket recvWithAddr
  dsimp only
  apply Int.bmod_eq_of_le
  · simp
  · simp
    omega

/-- The file format's record of a packet. -/
def pcapRecord (now : Clock) (packet : CapturedPacket) : Pcap.Record where
  seconds := UInt32.ofNat now.secs
  micros := UInt32.ofNat now.subsecMicros
  originalLength := packet.originalLength
  data := packet.data

/-- A natural number is wrapped as it is. -/
theorem ofInt_natCast (n : Nat) : UInt32.ofInt n = UInt32.ofNat n := by
  apply UInt32.toNat_inj.mp
  rw [UInt32.toNat_ofNat', UInt32.ofInt, UInt32.toNat_ofNat']
  omega

/-- **The timestamp survives the split.**  Milliseconds and a remainder on the daemon's side,
    joined by other divisions on the app's, are the clock's seconds and microseconds. -/
theorem record_nextPacket (h : now.secs < 2 ^ 32) :
    (nextPacket snaplen includePayload now frame).record =
      Pcap.encodeRecord (pcapRecord now (nextPacket snaplen includePayload now frame)) := by
  have hn := now.nanos_lt
  have hseconds : UInt32.ofInt ((now.asMillis : Int) / 1000) = UInt32.ofNat now.secs := by
    have hdiv : now.asMillis / 1000 = now.secs := by
      unfold Clock.asMillis
      omega
    rw [← hdiv, ← ofInt_natCast]
    rfl
  -- Milliseconds and the rest below them make the microseconds again.
  have hmicros : UInt32.ofInt ((now.asMillis : Int) % 1000) * 1000 +
      UInt32.ofNat (now.subsecMicros % 1000) = UInt32.ofNat now.subsecMicros := by
    have hmod : now.asMillis % 1000 * 1000 + now.subsecMicros % 1000 = now.subsecMicros := by
      unfold Clock.asMillis Clock.subsecMicros
      omega
    have hcast : UInt32.ofInt ((now.asMillis : Int) % 1000) =
        UInt32.ofNat (now.asMillis % 1000) := ofInt_natCast (now.asMillis % 1000)
    conv_rhs => rw [← hmod]
    rw [hcast, UInt32.ofNat_add, UInt32.ofNat_mul]
    rfl
  unfold CapturedPacket.record Pcap.encodeRecord
  rw [nextPacket_unixMs h]
  show App.le32 _ ++ App.le32 (_ * 1000 + UInt32.ofNat (now.subsecMicros % 1000)) ++ _ ++ _ ++ _ = _
  rw [hseconds, hmicros]
  rfl

/-! ### The file, read back -/

/-- A record of the file is a packet the daemon stamped at `now`: the clock truncated to
    microseconds, the captured bytes, and a length on the wire that covers them. -/
structure Recorded (now : Clock) (packet : CapturedPacket) (r : Pcap.Record) : Prop where
  seconds : r.seconds.toNat = now.secs
  micros : r.micros.toNat = now.nanos / 1000
  micros_lt : r.micros.toNat < 10 ^ 6
  data : r.data = packet.data
  originalLength : r.originalLength = packet.originalLength
  captured_le : r.data.length ≤ r.originalLength.toNat

/-- A packet is recorded with its bytes and times, while its seconds fit in thirty-two bits. -/
theorem recorded_nextPacket (h : now.secs < 2 ^ 32) :
    Recorded now (nextPacket snaplen includePayload now frame)
      (pcapRecord now (nextPacket snaplen includePayload now frame)) := by
  have hn := now.nanos_lt
  have hseconds : (UInt32.ofNat now.secs).toNat = now.secs := by
    rw [UInt32.toNat_ofNat']
    exact Nat.mod_eq_of_lt h
  have hmicros : (UInt32.ofNat now.subsecMicros).toNat = now.nanos / 1000 := by
    rw [UInt32.toNat_ofNat', Clock.subsecMicros]
    exact Nat.mod_eq_of_lt (by omega)
  refine ⟨hseconds, hmicros, ?_, rfl, rfl, ?_⟩
  · show (UInt32.ofNat now.subsecMicros).toNat < 10 ^ 6
    omega
  · show (nextPacket snaplen includePayload now frame).data.length ≤
      (nextPacket snaplen includePayload now frame).originalLength.toNat
    rw [nextPacket_originalLength]
    exact nextPacket_data_length

end Packet

section File

variable {linkType : LinkType} {snaplen : UInt32} {includePayload : Bool}

/-- What a capture of the frames `received`, each with the clock at its arrival, hands on. -/
def stamped (snaplen : UInt32) (includePayload : Bool) (received : List (Clock × List UInt8)) :
    List CapturedPacket :=
  received.map fun r => nextPacket snaplen includePayload r.1 r.2

/-- The records of the same frames. -/
def records (snaplen : UInt32) (includePayload : Bool) (received : List (Clock × List UInt8)) :
    List Pcap.Record :=
  received.map fun r => pcapRecord r.1 (nextPacket snaplen includePayload r.1 r.2)

/-- The records of a file are those of its packets. -/
theorem stamped_record {received : List (Clock × List UInt8)}
    (h : ∀ r ∈ received, r.1.secs < 2 ^ 32) :
    (stamped snaplen includePayload received).flatMap CapturedPacket.record =
      (records snaplen includePayload received).flatMap Pcap.encodeRecord := by
  induction received with
  | nil => rfl
  | cons r rs ih =>
    have hr : (nextPacket snaplen includePayload r.1 r.2).record = _ :=
      record_nextPacket (h r List.mem_cons_self)
    have hrs := ih (fun r' mem => h r' (List.mem_cons_of_mem _ mem))
    simp only [stamped, records, List.map_cons, List.flatMap_cons] at hrs ⊢
    rw [hr, hrs]

/-- Each record is of its own packet. -/
theorem forall₂_records {received : List (Clock × List UInt8)}
    (h : ∀ r ∈ received, r.1.secs < 2 ^ 32) :
    List.Forall₂ (fun r => Recorded r.1 (nextPacket snaplen includePayload r.1 r.2)) received
      (records snaplen includePayload received) := by
  induction received with
  | nil => exact List.Forall₂.nil
  | cons r rs ih =>
    apply List.Forall₂.cons
    · exact recorded_nextPacket (h r List.mem_cons_self)
    · exact ih (fun r' mem => h r' (List.mem_cons_of_mem _ mem))

/-- The captured length of every record fits its field. -/
theorem records_length_lt {received : List (Clock × List UInt8)} :
    ∀ r ∈ records snaplen includePayload received, r.data.length < 2 ^ 32 := by
  intro r hr
  obtain ⟨q, -, rfl⟩ := List.mem_map.mp hr
  have hlen : (nextPacket snaplen includePayload q.1 q.2).data.length ≤
      min q.2.length snaplen.toNat := nextPacket_data_length
  have hs := snaplen.toNat_lt
  show (nextPacket snaplen includePayload q.1 q.2).data.length < 2 ^ 32
  omega

/-- The file header is a pcap header. -/
theorem pcapHeader_eq : pcapHeader linkType snaplen =
    Pcap.encodeHeader snaplen linkType.toUInt32 := rfl

/-- **Daemon and app write one file.**  A capture that got the daemon's header and the packets
    the daemon stamped is saved, unless it is empty, and the file reads back as the classic
    format: link type and snaplen of the capture, and its packets in order. -/
theorem parse_writePcap {received : List (Clock × List UInt8)} {capture : App.Capture}
    (hheader : capture.pcapHeader = pcapHeader linkType snaplen)
    (hpackets : capture.packets = stamped snaplen includePayload received)
    (htimes : ∀ r ∈ received, r.1.secs < 2 ^ 32) (now : Nat) :
    (received ≠ [] → ∃ file, App.writePcap now capture = .ok file) ∧
    ∀ file, App.writePcap now capture = .ok file →
      ∃ rs, Pcap.parse file.contents = some ⟨snaplen, linkType.toUInt32, rs⟩ ∧
        List.Forall₂ (fun r => Recorded r.1 (nextPacket snaplen includePayload r.1 r.2))
          received rs := by
  have hne : capture.pcapHeader.isEmpty = false := by
    rw [hheader]
    rfl
  constructor
  · intro hreceived
    have hstamped : capture.packets.isEmpty = false := by
      rw [hpackets, stamped, List.isEmpty_eq_false_iff]
      simpa using hreceived
    simp [App.writePcap, hne, hstamped]
  · intro file hfile
    -- The file is the header and one record for each packet.
    have hcontents : file.contents = capture.pcapHeader ++
        capture.packets.flatMap CapturedPacket.record := by
      unfold App.writePcap at hfile
      split_ifs at hfile
      · cases hfile
        rfl
      · cases hfile
        rfl
    refine ⟨records snaplen includePayload received, ?_, forall₂_records htimes⟩
    rw [hcontents, hheader, hpackets, stamped_record htimes, pcapHeader_eq]
    exact Pcap.parse_encode ⟨snaplen, linkType.toUInt32, _⟩ records_length_lt

/-- Two frames, the second of them longer than the buffer of four bytes. -/
def twoFrames : List (Clock × List UInt8) :=
  [(⟨1700000000, 123456789, by decide⟩, [1, 2]),
   (⟨1700000001, 999999999, by decide⟩, [1, 2, 3, 4, 5])]

/-- What the app has of them. -/
def twoPackets : App.Capture where
  pcapHeader := pcapHeader .raw 4
  packets := stamped 4 true twoFrames

/-- Two packets, one of them cut, are read back from their file. -/
theorem parse_writePcap_twoPackets :
    ∃ file, App.writePcap 0 twoPackets = .ok file ∧
      ∃ rs, Pcap.parse file.contents = some ⟨4, 101, rs⟩ ∧
        List.Forall₂ (fun r => Recorded r.1 (nextPacket 4 true r.1 r.2)) twoFrames rs := by
  have hheader : twoPackets.pcapHeader = pcapHeader .raw 4 := rfl
  have hpackets : twoPackets.packets = stamped 4 true twoFrames := rfl
  obtain ⟨saved, reads⟩ := parse_writePcap hheader hpackets (by decide) 0
  obtain ⟨file, hfile⟩ := saved (by decide)
  exact ⟨file, hfile, reads file hfile⟩

end File

end Netdiag.Capture
