import Netdiag.Capture.Pcap
import Netdiag.Net.Messages
import Netdiag.Probe.Nat64
import Netdiag.Probe.Replies

namespace Netdiag.Capture

/-!
# Capture — packet summaries

`decode` of `daemon/src/capture.rs` with `decode_v4`, `decode_v6`, `decode_l4` and `describe`:
enough of a packet for a list view, read from octets that anyone on the link can choose.

* `decode_returns` — a summary for every packet and link type.
* `parsers_safe` — none of the daemon's parsers of received octets panics.
-/

open Checked
open Netdiag.Probe

/-- `PacketSummary`. -/
structure PacketSummary where
  family : IpFamily := .unspecified
  source : Option IpAddress := none
  destination : Option IpAddress := none
  sourcePort : BitVec 32 := 0
  destinationPort : BitVec 32 := 0
  ipProtocol : BitVec 32 := 0
  protocolName : String := ""
  ttl : BitVec 32 := 0
  syn : Bool := false
  ack : Bool := false
  fin : Bool := false
  rst : Bool := false
  psh : Bool := false
  tcpSeq : BitVec 32 := 0
  tcpWindow : BitVec 32 := 0
  icmpType : BitVec 32 := 0
  icmpCode : BitVec 32 := 0
  icmpMtu : BitVec 32 := 0
  description : String := ""
  deriving DecidableEq, Repr

/-- `describe`. -/
def describe (summary : PacketSummary) : String :=
  let src := (summary.source.map IpAddress.display).getD ""
  let dst := (summary.destination.map IpAddress.display).getD ""
  let name := summary.protocolName
  if name = "TCP" then
    let flags := ",".intercalate (([(summary.syn, "SYN"), (summary.ack, "ACK"),
      (summary.fin, "FIN"), (summary.rst, "RST"), (summary.psh, "PSH")].filter Prod.fst).map
        Prod.snd)
    s!"TCP {src}:{summary.sourcePort.toNat} -> {dst}:{summary.destinationPort.toNat} [{flags}]"
  else if name = "UDP" then
    s!"UDP {src}:{summary.sourcePort.toNat} -> {dst}:{summary.destinationPort.toNat}"
  else if name.startsWith "ICMP" then
    let seen := s!"{name} {src} -> {dst} type {summary.icmpType.toNat} code {summary.icmpCode.toNat}"
    -- Only a message that carries one.
    if 0 < summary.icmpMtu.toNat then s!"{seen} next-hop MTU {summary.icmpMtu.toNat}" else seen
  else if name = "" then ""
  else s!"{name} {src} -> {dst}"

/-- `u32::from_be_bytes` of the four octets from `i` on. -/
def be32 (buf : List (BitVec 8)) (i : Nat) : Run Empty (BitVec 32) := do
  let a ← index buf i
  let b ← index buf (i + 1)
  let c ← index buf (i + 2)
  let d ← index buf (i + 3)
  return ofBytes 32 [a, b, c, d]

/-- The arm of `decode_l4` for TCP. -/
def decodeTcp (payload : List (BitVec 8)) (summary : PacketSummary) : Run Empty PacketSummary :=
  let summary := { summary with protocolName := "TCP" }
  -- The name is kept where the header is cut off.
  if payload.length < 20 then return summary
  else do
    let sourcePort ← Dns.be16 payload 0 1
    let destinationPort ← Dns.be16 payload 2 3
    let tcpSeq ← be32 payload 4
    let flags ← index payload 13
    let tcpWindow ← Dns.be16 payload 14 15
    return { summary with
      sourcePort := sourcePort.setWidth 32
      destinationPort := destinationPort.setWidth 32
      tcpSeq := tcpSeq
      fin := flags &&& 0x01 != 0
      syn := flags &&& 0x02 != 0
      rst := flags &&& 0x04 != 0
      psh := flags &&& 0x08 != 0
      ack := flags &&& 0x10 != 0
      tcpWindow := tcpWindow.setWidth 32 }

/-- The arm of `decode_l4` for UDP. -/
def decodeUdp (payload : List (BitVec 8)) (summary : PacketSummary) : Run Empty PacketSummary :=
  let summary := { summary with protocolName := "UDP" }
  if payload.length < 8 then return summary
  else do
    let sourcePort ← Dns.be16 payload 0 1
    let destinationPort ← Dns.be16 payload 2 3
    return { summary with
      sourcePort := sourcePort.setWidth 32
      destinationPort := destinationPort.setWidth 32 }

/-- The next-hop MTU of "fragmentation needed" (v4 type 3 code 4) and "packet too big" (v6
    type 2); the field stays as it was on every other message. -/
def decodeMtu (payload : List (BitVec 8)) (v6 : Bool) (icmpMtu : BitVec 32) :
    Run Empty (BitVec 32) := do
  let first ← index payload 0
  let second ← index payload 1
  if (!v6 && first == 3 && second == 4) || (v6 && first == 2) then
    if v6 then be32 payload 4
    else return (← Dns.be16 payload 6 7).setWidth 32
  else return icmpMtu

/-- The arm of `decode_l4` for ICMP and ICMPv6. -/
def decodeIcmp (payload : List (BitVec 8)) (summary : PacketSummary) (v6 : Bool) :
    Run Empty PacketSummary :=
  let summary := { summary with protocolName := if v6 then "ICMPv6" else "ICMP" }
  if payload.length < 8 then return summary
  else do
    let icmpType ← index payload 0
    let icmpCode ← index payload 1
    let icmpMtu ← decodeMtu payload v6 summary.icmpMtu
    return { summary with
      icmpType := icmpType.setWidth 32
      icmpCode := icmpCode.setWidth 32
      icmpMtu := icmpMtu }

/-- `decode_l4`. -/
def decodeL4 (payload : List (BitVec 8)) (protocol : BitVec 8) (summary : PacketSummary)
    (v6 : Bool) : Run Empty PacketSummary :=
  if protocol = 6 then decodeTcp payload summary
  else if protocol = 17 then decodeUdp payload summary
  else if protocol = 1 ∨ protocol = 58 then decodeIcmp payload summary v6
  else return { summary with protocolName := s!"IP proto {protocol.toNat}" }

/-- `decode_v4`. -/
def decodeV4 (w : Nat) (ip : List (BitVec 8)) (summary : PacketSummary) :
    Run Empty PacketSummary :=
  if ip.length < 20 then return summary
  else do
    let ihl ← mul w ((← index ip 0) &&& 0x0f).toNat 4
    -- Options that reach beyond the packet.
    if ip.length < ihl then return summary
    else
      let ttl ← index ip 8
      let protocol ← index ip 9
      let source ← slice ip 12 16
      let destination ← slice ip 16 20
      let payload ← sliceFrom ip ihl
      decodeL4 payload protocol { summary with
        family := .v4
        ttl := ttl.setWidth 32
        ipProtocol := protocol.setWidth 32
        source := some ⟨source⟩
        destination := some ⟨destination⟩ } false

/-- `decode_v6`.  Extension headers are not walked. -/
def decodeV6 (ip : List (BitVec 8)) (summary : PacketSummary) : Run Empty PacketSummary :=
  if ip.length < 40 then return summary
  else do
    let hopLimit ← index ip 7
    let protocol ← index ip 6
    let source ← slice ip 8 24
    let destination ← slice ip 24 40
    let payload ← sliceFrom ip 40
    decodeL4 payload protocol { summary with
      family := .v6
      ttl := hopLimit.setWidth 32
      ipProtocol := protocol.setWidth 32
      source := some ⟨source⟩
      destination := some ⟨destination⟩ } true

/-- What `decode` finds behind the link header: the IP packet, or the summary it returns at
    once. -/
def linkPayload (data : List (BitVec 8)) (linkType : LinkType) (summary : PacketSummary) :
    Run Empty (PacketSummary ⊕ List (BitVec 8)) :=
  if linkType = .ethernet then
    if data.length < 14 then return .inl summary
    else do
      let ethertype ← Dns.be16 data 12 13
      if ethertype = 0x0800 ∨ ethertype = 0x86dd then return .inr (← sliceFrom data 14)
      else if ethertype = 0x0806 then
        return .inl { summary with protocolName := "ARP", description := "ARP" }
      -- VLAN-tagged: skip the 4-byte tag.
      else if ethertype = 0x8100 ∧ 18 ≤ data.length then return .inr (← sliceFrom data 18)
      else return .inl summary
  else return .inr data

/-- The arm of `decode` for the version in the first octet. -/
def decodeVersion (w : Nat) (version : BitVec 8) (ip : List (BitVec 8))
    (summary : PacketSummary) : Run Empty PacketSummary :=
  if version = 4 then decodeV4 w ip summary
  else if version = 6 then decodeV6 ip summary
  else return summary

/-- `decode`. -/
def decode (w : Nat) (data : List (BitVec 8)) (linkType : LinkType) :
    Run Empty PacketSummary := do
  let summary : PacketSummary := {}
  match ← linkPayload data linkType summary with
  | .inl summary => return summary
  | .inr ip =>
    if ip.isEmpty then return summary
    else
      let first ← index ip 0
      let summary ← decodeVersion w (first >>> 4) ip summary
      return { summary with description := describe summary }

/-! ### No panic -/

section Returns

variable {w : Nat} {buf payload ip data : List (BitVec 8)} {summary : PacketSummary}

/-- A word of four octets is read inside the buffer. -/
theorem be32_returns {i : Nat} (h : i + 3 < buf.length) :
    Returns (be32 buf i) (fun _ => True) := by
  rw [be32, index_eq (by omega), ok_bind, index_eq (by omega), ok_bind, index_eq (by omega),
    ok_bind, index_eq h, ok_bind]
  exact trivial

/-- The TCP decoder looks at its ports and flags only where they are. -/
theorem decodeTcp_returns : Returns (decodeTcp payload summary) (fun _ => True) := by
  unfold decodeTcp
  dsimp only
  split
  · exact trivial
  -- Twenty octets are there.
  rw [Dns.be16_eq (by omega), ok_bind, Dns.be16_eq (by omega), ok_bind]
  refine (be32_returns (by omega)).bind fun tcpSeq _ => ?_
  rw [index_eq (by omega), ok_bind, Dns.be16_eq (by omega), ok_bind]
  exact trivial

/-- The UDP decoder looks at its ports only where they are. -/
theorem decodeUdp_returns : Returns (decodeUdp payload summary) (fun _ => True) := by
  unfold decodeUdp
  dsimp only
  split
  · exact trivial
  -- Eight octets are there.
  rw [Dns.be16_eq (by omega), ok_bind, Dns.be16_eq (by omega), ok_bind]
  exact trivial

/-- The MTU of an ICMP error lies within the eight octets that were checked for. -/
theorem decodeMtu_returns (h : 8 ≤ payload.length) (v6 : Bool) (icmpMtu : BitVec 32) :
    Returns (decodeMtu payload v6 icmpMtu) (fun _ => True) := by
  rw [decodeMtu, index_eq (by omega), ok_bind, index_eq (by omega), ok_bind]
  split
  · split
    · exact be32_returns (by omega)
    · rw [Dns.be16_eq (by omega), ok_bind]
      exact trivial
  · exact trivial

/-- The ICMP decoders check for what they read. -/
theorem decodeIcmp_returns (v6 : Bool) :
    Returns (decodeIcmp payload summary v6) (fun _ => True) := by
  unfold decodeIcmp
  dsimp only
  split
  · exact trivial
  rw [index_eq (by omega), ok_bind, index_eq (by omega), ok_bind]
  exact (decodeMtu_returns (by omega) v6 _).bind fun _ _ => trivial

/-- Whatever the protocol number, the transport is read inside the packet. -/
theorem decodeL4_returns (protocol : BitVec 8) (v6 : Bool) :
    Returns (decodeL4 payload protocol summary v6) (fun _ => True) := by
  unfold decodeL4
  split
  · exact decodeTcp_returns
  split
  · exact decodeUdp_returns
  split
  · exact decodeIcmp_returns v6
  · exact trivial

/-- An IPv4 header of any length leads to a payload inside the packet; nothing overflows a word. -/
theorem decodeV4_returns (hw : 2 ^ 16 ≤ 2 ^ w) :
    Returns (decodeV4 w ip summary) (fun _ => True) := by
  unfold decodeV4
  split
  · exact trivial
  -- The length of the header is a nibble of words: sixty octets at most.
  have hihl : ∀ b : BitVec 8, (b &&& 0x0f).toNat * 4 ≤ 60 := Icmp.nibble_mul_le
  rw [index_eq (by omega), ok_bind, mul_eq (by have := hihl ip[0]; omega), ok_bind]
  split
  · exact trivial
  rw [index_eq (by omega), ok_bind, index_eq (by omega), ok_bind, slice_eq (by omega) (by omega),
    ok_bind, slice_eq (by omega) (by omega), ok_bind, sliceFrom_eq (by omega), ok_bind]
  exact decodeL4_returns _ _

/-- An IPv6 packet too short for its header is not read at all. -/
theorem decodeV6_returns : Returns (decodeV6 ip summary) (fun _ => True) := by
  unfold decodeV6
  split
  · exact trivial
  rw [index_eq (by omega), ok_bind, index_eq (by omega), ok_bind, slice_eq (by omega) (by omega),
    ok_bind, slice_eq (by omega) (by omega), ok_bind, sliceFrom_eq (by omega), ok_bind]
  exact decodeL4_returns _ _

/-- The version decides which of the two decoders is asked, or none. -/
theorem decodeVersion_returns (hw : 2 ^ 16 ≤ 2 ^ w) (version : BitVec 8) :
    Returns (decodeVersion w version ip summary) (fun _ => True) := by
  unfold decodeVersion
  split
  · exact decodeV4_returns hw
  split
  · exact decodeV6_returns
  · exact trivial

/-- The link header is looked at, and skipped, only where it is. -/
theorem linkPayload_returns (linkType : LinkType) :
    Returns (linkPayload data linkType summary) (fun _ => True) := by
  unfold linkPayload
  split
  · split
    · exact trivial
    rw [Dns.be16_eq (by omega), ok_bind]
    split
    · rw [sliceFrom_eq (by omega)]
      exact trivial
    split
    · exact trivial
    split
    -- A tag is looked behind only if it is there whole.
    · rename_i htag
      rw [sliceFrom_eq htag.2]
      exact trivial
    · exact trivial
  · exact trivial

/-- Every buffer is decoded, whatever its link type says of it. -/
theorem decode_returns (hw : 2 ^ 16 ≤ 2 ^ w) (data : List (BitVec 8)) (linkType : LinkType) :
    Returns (decode w data linkType) (fun _ => True) := by
  refine (linkPayload_returns linkType).bind ?_
  rintro (summary | ip) -
  · exact trivial
  dsimp only
  split
  · exact trivial
  -- A payload that is not empty has a first octet.
  rename_i hempty
  rw [index_eq (List.length_pos_iff.mpr (by simpa using hempty)), ok_bind]
  exact (decodeVersion_returns hw _).bind fun _ _ => trivial

end Returns

/-! ### The parsers of received octets -/

/-- Four octets are those of the address made of them. -/
theorem octets_v4 {bs : List (BitVec 8)} (h : bs.length = 4) :
    (IpAddr.v4 (ofBytes 32 bs)).octets = bs := by
  obtain ⟨a, b, c, d, rfl⟩ := List.length_eq_four.mp h
  have hbyte : ∀ k, 8 * k + 8 ≤ 32 →
      (ofBytes 32 [a, b, c, d] >>> (8 * k)).setWidth 8 = [d, c, b, a].getD k 0 :=
    fun k hk => ofBytes_shift [a, b, c, d] hk
  simp only [IpAddr.octets, List.map_cons, List.map_nil]
  rw [hbyte 3 (by decide), hbyte 2 (by decide), hbyte 1 (by decide), hbyte 0 (by decide)]
  rfl

/-- A returned address is the whole of its record's data. -/
theorem octets_of_address {buf : List (BitVec 8)} {r : Dns.Record} {qtype : BitVec 16}
    {a : IpAddr} (hinside : r.stop buf ≤ buf.length) (h : r.address buf qtype = some a) :
    r.rtype buf = qtype ∧ a.octets = r.rdata buf := by
  have hlen := Dns.length_rdata hinside
  unfold Dns.Record.address at h
  -- Four octets for an A record, sixteen for AAAA.
  split_ifs at h with htype hv4 hv6
  · cases h
    exact ⟨htype, octets_v4 (hlen.trans hv4.2)⟩
  · cases h
    exact ⟨htype, Dns.octets_ofBytes (hlen.trans hv6.2)⟩

/-- A record of a section lies in the buffer at its own offset. -/
theorem inside_of_mem {buf : List (BitVec 8)} {o : Nat} {rs : List Dns.Record}
    (h : Dns.RecordsAt buf o rs) {r : Dns.Record} (hr : r ∈ rs) : Dns.RecordAt buf r := by
  induction h with
  | nil => simp at hr
  | cons hstart hat rest ih =>
    rcases List.mem_cons.mp hr with rfl | hr
    · exact hat
    · exact ih hr

/-- Every parser of received octets is safe on every buffer in memory: packets, pings and TLS
    replies are always classified, a DNS response is decoded or refused, and its addresses
    are the data of answer records of the asked type inside the buffer. -/
theorem parsers_safe (t : Target) (buf : Slice t (BitVec 8)) :
    (∀ linkType, ∃ summary, decode t.bits buf.elems linkType = .ok summary) ∧
    (∀ v6 kind sequence, ∃ b, Icmp.matchesReply t.bits buf.elems v6 kind sequence = .ok b) ∧
    (∃ reply, Tls.classifyReply buf.elems = .ok reply) ∧
    (∀ o, (∀ p, Dns.skipName t.bits buf.elems o ≠ .error (.panic p)) ∧
      ∀ e, Dns.skipName t.bits buf.elems o = .ok e → o < e ∧ e ≤ buf.elems.length) ∧
    ∀ expectId qtype,
      (∀ p, Dns.decodeResponse t.bits buf.elems expectId qtype ≠ .error (.panic p)) ∧
      ∀ result, Dns.decodeResponse t.bits buf.elems expectId qtype = .ok result →
        ∃ rs, Dns.AnswersAt buf.elems rs ∧
          rs.length ≤ (Dns.headerField buf.elems 6).toNat ∧
          ∀ a ∈ result.1, ∃ r ∈ rs, r.rtype buf.elems = qtype ∧
            r.stop buf.elems ≤ buf.elems.length ∧ a.octets = r.rdata buf.elems := by
  -- A slice is short enough for an offset plus a half word to fit the address space.
  have hw := buf.length_add_le (k := 2 ^ 16) (by decide)
  have hword : 2 ^ 16 ≤ 2 ^ t.bits := by omega
  refine ⟨?_, ?_, ?_, ?_, ?_⟩
  · intro linkType
    obtain ⟨summary, h, -⟩ := (decode_returns hword buf.elems linkType).exists_ok
    exact ⟨summary, h⟩
  · intro v6 kind sequence
    obtain ⟨b, h, -⟩ := (Icmp.matchesReply_returns hword buf.elems v6 kind sequence).exists_ok
    exact ⟨b, h⟩
  · obtain ⟨reply, h, -⟩ := (Tls.classifyReply_returns buf.elems).exists_ok
    exact ⟨reply, h⟩
  · intro o
    have hname := Dns.skipName_returns hw o
    refine ⟨hname.not_panic, fun e he => ?_⟩
    obtain ⟨k, -, hat⟩ := hname.of_ok he
    exact hat.bounds
  · intro expectId qtype
    have hdecode := Dns.decodeResponse_returns hw expectId qtype
    refine ⟨hdecode.not_panic, fun result hresult => ?_⟩
    obtain ⟨rs, hrs, hcount, haddr⟩ := hdecode.of_ok hresult
    -- Each address is the data of the record it was read from.
    refine ⟨rs, hrs, hcount, fun a ha => ?_⟩
    obtain ⟨stop, -, hrecords⟩ := hrs
    rw [haddr] at ha
    obtain ⟨r, hr, hra⟩ := List.mem_filterMap.mp ha
    have hinside := (inside_of_mem hrecords hr).inside
    obtain ⟨htype, hoctets⟩ := octets_of_address hinside hra
    exact ⟨r, hr, htype, hinside, hoctets⟩

end Netdiag.Capture
