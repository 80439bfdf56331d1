import Netdiag.Capture.Socket

namespace Netdiag.Capture

/-!
# Capture — what a summary says about the transport header

`decode` as a function of the octets, and the ports, flags and ICMP fields it sets.

* `Transport` — the fields of a summary that come from a transport header; `Header.read` — what
  the octets of one say.
* `ipSummary` — the summary of the octets of an IP packet; `decode_of_ipPacket` and
  `decode_of_none` say that `decode` computes it, or finds no IP packet.
* `transportHeader` — the transport header a packet has, if it has one: not behind an IPv4
  header that claims less than its fixed part, nor in a fragment other than the first.
* `grounded_iff` — when a summary speaks of that header only.

`decode_v4` bounds the header length from above and not from below, and does not look at the
fragment offset.
-/

open Checked
open Netdiag.Probe

/-! ### Octets -/

/-- The octet at `i`. -/
def octet (bs : List (BitVec 8)) (i : Nat) : BitVec 8 := bs.getD i 0

/-- The two octets at `i`, as `u16::from_be_bytes` reads them. -/
def half (bs : List (BitVec 8)) (i : Nat) : BitVec 16 := ofBytes 16 [octet bs i, octet bs (i + 1)]

/-- The four octets at `i`, as `u32::from_be_bytes` reads them. -/
def word (bs : List (BitVec 8)) (i : Nat) : BitVec 32 :=
  ofBytes 32 [octet bs i, octet bs (i + 1), octet bs (i + 2), octet bs (i + 3)]

section Octets

variable {bs : List (BitVec 8)} {i : Nat}

/-- An index inside the buffer reads the octet there. -/
theorem getElem_eq_octet (h : i < bs.length) : bs[i] = octet bs i := by
  rw [octet, List.getD_eq_getElem?_getD, List.getElem?_eq_getElem h, Option.getD_some]

/-- The checked index returns it. -/
theorem index_octet (h : i < bs.length) : (index bs i : Run Empty _) = .ok (octet bs i) := by
  rw [index_eq h, getElem_eq_octet h]

/-- Two octets inside the buffer are read as a big-endian half word. -/
theorem be16_half (h : i + 1 < bs.length) :
    (Dns.be16 bs i (i + 1) : Run Empty _) = .ok (half bs i) := by
  rw [Dns.be16, index_octet (by omega), ok_bind, index_octet h, ok_bind]
  rfl

/-- Four octets inside the buffer are read as a big-endian word. -/
theorem be32_word (h : i + 3 < bs.length) : be32 bs i = .ok (word bs i) := by
  rw [be32, index_octet (by omega), ok_bind, index_octet (by omega), ok_bind,
    index_octet (by omega), ok_bind, index_octet h, ok_bind]
  rfl

/-- A number is zero only if each of its octets is. -/
theorem ofBytes_eq_zero {w : Nat} (h : 8 * bs.length ≤ w) :
    ofBytes w bs = 0 ↔ ∀ b ∈ bs, b = 0 := by
  constructor
  · intro hzero b hb
    obtain ⟨k, hk, rfl⟩ := List.mem_iff_getElem.mp (List.mem_reverse.mpr hb)
    rw [List.length_reverse] at hk
    have hcut := ofBytes_shift bs (by omega : 8 * k + 8 ≤ w)
    rw [hzero] at hcut
    rw [getElem_eq_octet (by simpa using hk), octet, ← hcut]
    simp
  · intro hall
    apply ofBytes_eq
    intro k _
    by_cases hk : k < bs.reverse.length
    · have hmem : bs.reverse[k] ∈ bs := List.mem_reverse.mp (List.getElem_mem hk)
      rw [List.getD_eq_getElem?_getD, List.getElem?_eq_getElem hk, Option.getD_some, hall _ hmem]
      simp
    · rw [List.getD_eq_getElem?_getD, List.getElem?_eq_none (by omega)]
      simp

/-- A half word is zero when both its octets are. -/
theorem half_eq_zero : half bs i = 0 ↔ octet bs i = 0 ∧ octet bs (i + 1) = 0 := by
  unfold half
  rw [ofBytes_eq_zero (by simp)]
  simp

/-- A word is zero when all its octets are. -/
theorem word_eq_zero : word bs i = 0 ↔
    octet bs i = 0 ∧ octet bs (i + 1) = 0 ∧ octet bs (i + 2) = 0 ∧ octet bs (i + 3) = 0 := by
  unfold word
  rw [ofBytes_eq_zero (by simp)]
  simp

/-- Widening loses nothing. -/
theorem setWidth_eq_zero {v w : Nat} (h : v ≤ w) {x : BitVec v} : x.setWidth w = 0 ↔ x = 0 := by
  rw [BitVec.toNat_eq, BitVec.toNat_eq, BitVec.toNat_setWidth_of_le h]
  rfl

/-- Widening a half word does not make it zero. -/
theorem wide_half_eq_zero :
    (half bs i).setWidth 32 = 0 ↔ octet bs i = 0 ∧ octet bs (i + 1) = 0 := by
  rw [setWidth_eq_zero (by decide), half_eq_zero]

/-- Widening an octet does not make it zero. -/
theorem wide_octet_eq_zero : (octet bs i).setWidth 32 = 0 ↔ octet bs i = 0 :=
  setWidth_eq_zero (by decide)

end Octets

/-! ### Transport headers -/

/-- The fields of a summary that come from the transport header. -/
structure Transport where
  sourcePort : BitVec 32 := 0
  destinationPort : BitVec 32 := 0
  syn : Bool := false
  ack : Bool := false
  fin : Bool := false
  rst : Bool := false
  psh : Bool := false
  tcpSeq : BitVec 32 := 0
  tcpWindow : BitVec 32 := 0
  icmpType : BitVec 32 := 0
  icmpCode : BitVec 32 := 0
  icmpMtu : BitVec 32 := 0
  deriving DecidableEq, Repr

/-- No field is set. -/
def Transport.unset : Transport := {}

namespace PacketSummary

/-- The transport fields of a summary. -/
def transport (s : PacketSummary) : Transport where
  sourcePort := s.sourcePort
  destinationPort := s.destinationPort
  syn := s.syn
  ack := s.ack
  fin := s.fin
  rst := s.rst
  psh := s.psh
  tcpSeq := s.tcpSeq
  tcpWindow := s.tcpWindow
  icmpType := s.icmpType
  icmpCode := s.icmpCode
  icmpMtu := s.icmpMtu

/-- The summary with these transport fields. -/
def withTransport (s : PacketSummary) (x : Transport) : PacketSummary :=
  { s with
    sourcePort := x.sourcePort
    destinationPort := x.destinationPort
    syn := x.syn
    ack := x.ack
    fin := x.fin
    rst := x.rst
    psh := x.psh
    tcpSeq := x.tcpSeq
    tcpWindow := x.tcpWindow
    icmpType := x.icmpType
    icmpCode := x.icmpCode
    icmpMtu := x.icmpMtu }

/-- The transport fields are read back. -/
@[simp] theorem transport_withTransport (s : PacketSummary) (x : Transport) :
    (s.withTransport x).transport = x := rfl

end PacketSummary

/-- The octets of a transport header with the protocol the IP header names. -/
structure Header where
  v6 : Bool
  protocol : BitVec 8
  octets : List (BitVec 8)
  deriving DecidableEq, Repr

namespace Header

/-- The fields of a TCP header. -/
def readTcp (octets : List (BitVec 8)) : Transport where
  sourcePort := (half octets 0).setWidth 32
  destinationPort := (half octets 2).setWidth 32
  tcpSeq := word octets 4
  fin := octet octets 13 &&& 0x01 != 0
  syn := octet octets 13 &&& 0x02 != 0
  rst := octet octets 13 &&& 0x04 != 0
  psh := octet octets 13 &&& 0x08 != 0
  ack := octet octets 13 &&& 0x10 != 0
  tcpWindow := (half octets 14).setWidth 32

/-- The ports of a UDP header. -/
def readUdp (octets : List (BitVec 8)) : Transport where
  sourcePort := (half octets 0).setWidth 32
  destinationPort := (half octets 2).setWidth 32

/-- The fields of an ICMP message, with the next-hop MTU of the two that carry one. -/
def readIcmp (v6 : Bool) (octets : List (BitVec 8)) : Transport where
  icmpType := (octet octets 0).setWidth 32
  icmpCode := (octet octets 1).setWidth 32
  icmpMtu :=
    if v6 then if octet octets 0 = 2 then word octets 4 else 0
    else if octet octets 0 = 3 ∧ octet octets 1 = 4 then (half octets 6).setWidth 32 else 0

/-- What a whole header says; nothing is read of one that is cut off. -/
def read (h : Header) : Transport :=
  if h.protocol = 6 then if 20 ≤ h.octets.length then readTcp h.octets else .unset
  else if h.protocol = 17 then if 8 ≤ h.octets.length then readUdp h.octets else .unset
  else if h.protocol = 1 ∨ h.protocol = 58 then
    if 8 ≤ h.octets.length then readIcmp h.v6 h.octets else .unset
  else .unset

/-- The name of the protocol. -/
def protocolName (h : Header) : String :=
  if h.protocol = 6 then "TCP"
  else if h.protocol = 17 then "UDP"
  else if h.protocol = 1 ∨ h.protocol = 58 then if h.v6 then "ICMPv6" else "ICMP"
  else s!"IP proto {h.protocol.toNat}"

/-- Some octet that is read is not zero. -/
def HasFields (h : Header) : Prop :=
  if h.protocol = 6 then
    20 ≤ h.octets.length ∧ ((∃ i ∈ [0, 1, 2, 3, 4, 5, 6, 7, 14, 15], octet h.octets i ≠ 0) ∨
      octet h.octets 13 &&& 0x1f ≠ 0)
  else if h.protocol = 17 then
    8 ≤ h.octets.length ∧ ∃ i ∈ [0, 1, 2, 3], octet h.octets i ≠ 0
  else if h.protocol = 1 ∨ h.protocol = 58 then
    8 ≤ h.octets.length ∧ ∃ i ∈ [0, 1], octet h.octets i ≠ 0
  else False

/-- Which TCP headers say nothing: ports, numbers, flags and window all zero. -/
theorem readTcp_eq_unset {octets : List (BitVec 8)} :
    readTcp octets = .unset ↔ (∀ i ∈ [0, 1, 2, 3, 4, 5, 6, 7, 14, 15], octet octets i = 0) ∧
      octet octets 13 &&& 0x1f = 0 := by
  have hflags : ∀ f : BitVec 8, f &&& 0x1f = 0 ↔ ((f &&& 0x01 != 0) = false ∧
      (f &&& 0x02 != 0) = false ∧ (f &&& 0x04 != 0) = false ∧ (f &&& 0x08 != 0) = false ∧
        (f &&& 0x10 != 0) = false) := by
    decide
  rw [hflags (octet octets 13)]
  simp only [readTcp, Transport.unset, Transport.mk.injEq, wide_half_eq_zero, word_eq_zero,
    List.mem_cons, List.not_mem_nil, or_false, forall_eq_or_imp, forall_eq]
  constructor
  · rintro ⟨⟨h0, h1⟩, ⟨h2, h3⟩, syn, ack, fin, rst, psh, ⟨h4, h5, h6, h7⟩, ⟨h14, h15⟩, -⟩
    exact ⟨⟨h0, h1, h2, h3, h4, h5, h6, h7, h14, h15⟩, fin, syn, rst, psh, ack⟩
  · rintro ⟨⟨h0, h1, h2, h3, h4, h5, h6, h7, h14, h15⟩, fin, syn, rst, psh, ack⟩
    exact ⟨⟨h0, h1⟩, ⟨h2, h3⟩, syn, ack, fin, rst, psh, ⟨h4, h5, h6, h7⟩, ⟨h14, h15⟩, trivial,
      trivial, trivial⟩

/-- Which UDP headers say nothing: both ports zero. -/
theorem readUdp_eq_unset {octets : List (BitVec 8)} :
    readUdp octets = .unset ↔ ∀ i ∈ [0, 1, 2, 3], octet octets i = 0 := by
  simp only [readUdp, Transport.unset, Transport.mk.injEq, wide_half_eq_zero, List.mem_cons,
    List.not_mem_nil, or_false, forall_eq_or_imp, forall_eq, and_true, and_assoc]

/-- The messages that carry an MTU have a type, so type and code decide. -/
theorem readIcmp_eq_unset {v6 : Bool} {octets : List (BitVec 8)} :
    readIcmp v6 octets = .unset ↔ ∀ i ∈ [0, 1], octet octets i = 0 := by
  constructor
  · intro h
    have htype := congrArg Transport.icmpType h
    have hcode := congrArg Transport.icmpCode h
    simp only [readIcmp, Transport.unset, wide_octet_eq_zero] at htype hcode
    simp [htype, hcode]
  · intro h
    have htype : octet octets 0 = 0 := h 0 (by simp)
    have hcode : octet octets 1 = 0 := h 1 (by simp)
    unfold readIcmp
    rw [htype, hcode]
    cases v6 with
    | true => rfl
    | false => rfl

/-- A header with nothing but zeros in it sets no field. -/
theorem read_eq_unset {h : Header} : h.read = .unset ↔ ¬ h.HasFields := by
  unfold read HasFields
  split_ifs with htcp hwhole hudp hwhole hicmp hwhole
  · simp [readTcp_eq_unset, hwhole]
  · simp [hwhole]
  · simp [readUdp_eq_unset, hwhole]
  · simp [hwhole]
  · simp [readIcmp_eq_unset, hwhole]
  · simp [hwhole]
  · simp

/-- Only TCP and UDP have ports. -/
theorem protocol_of_port {h : Header} (hport : h.read.sourcePort ≠ 0 ∨ h.read.destinationPort ≠ 0) :
    h.protocol = 6 ∨ h.protocol = 17 := by
  by_contra hother
  push Not at hother
  unfold read at hport
  rw [if_neg hother.1, if_neg hother.2] at hport
  split_ifs at hport
  all_goals simp [readIcmp, Transport.unset] at hport

end Header

/-! ### The summary of an IP packet -/

section Layer4

variable {payload : List (BitVec 8)} (s : PacketSummary)

/-- The TCP decoder reads the header it is given. -/
theorem decodeTcp_eq : decodeTcp payload (s.withTransport .unset) =
    .ok ({ s with protocolName := "TCP" }.withTransport
      (if 20 ≤ payload.length then Header.readTcp payload else .unset)) := by
  unfold decodeTcp
  dsimp only
  split
  · rw [if_neg (by omega)]
    rfl
  · rw [if_pos (by omega), be16_half (by omega), ok_bind, be16_half (by omega), ok_bind,
      be32_word (by omega), ok_bind, index_octet (by omega), ok_bind, be16_half (by omega),
      ok_bind]
    rfl

/-- The UDP decoder reads the header it is given. -/
theorem decodeUdp_eq : decodeUdp payload (s.withTransport .unset) =
    .ok ({ s with protocolName := "UDP" }.withTransport
      (if 8 ≤ payload.length then Header.readUdp payload else .unset)) := by
  unfold decodeUdp
  dsimp only
  split
  · rw [if_neg (by omega)]
    rfl
  · rw [if_pos (by omega), be16_half (by omega), ok_bind, be16_half (by omega), ok_bind]
    rfl

/-- The MTU is that of the error message. -/
theorem decodeMtu_eq (h : 8 ≤ payload.length) (v6 : Bool) :
    decodeMtu payload v6 0 = .ok (Header.readIcmp v6 payload).icmpMtu := by
  rw [decodeMtu, index_octet (by omega), ok_bind, index_octet (by omega), ok_bind,
    be32_word (by omega), be16_half (by omega), ok_bind]
  unfold Header.readIcmp
  dsimp only
  cases v6 with
  | true =>
    simp only [Bool.not_true, Bool.false_and, Bool.false_or, Bool.true_and, beq_iff_eq, if_true]
    split
    · rfl
    · rfl
  | false =>
    simp only [Bool.not_false, Bool.true_and, Bool.false_and, Bool.or_false, Bool.and_eq_true,
      beq_iff_eq, Bool.false_eq_true, if_false]
    split
    · rfl
    · rfl

/-- The ICMP decoders read the header they are given. -/
theorem decodeIcmp_eq (v6 : Bool) : decodeIcmp payload (s.withTransport .unset) v6 =
    .ok ({ s with protocolName := if v6 then "ICMPv6" else "ICMP" }.withTransport
      (if 8 ≤ payload.length then Header.readIcmp v6 payload else .unset)) := by
  unfold decodeIcmp
  dsimp only
  by_cases hwhole : 8 ≤ payload.length
  · have hmtu : (s.withTransport .unset).icmpMtu = 0 := rfl
    rw [if_neg hwhole.not_gt, if_pos hwhole, index_octet (by omega), ok_bind,
      index_octet (by omega), ok_bind, hmtu, decodeMtu_eq (by omega), ok_bind]
    rfl
  · have hshort : payload.length < 8 := Nat.lt_of_not_le hwhole
    rw [if_pos hshort, if_neg hwhole]
    rfl

/-- `decode_l4` names the protocol and reads the header. -/
theorem decodeL4_eq (h : Header) :
    decodeL4 h.octets h.protocol (s.withTransport .unset) h.v6 =
      .ok ({ s with protocolName := h.protocolName }.withTransport h.read) := by
  unfold decodeL4 Header.protocolName Header.read
  by_cases htcp : h.protocol = 6
  · simp only [if_pos htcp]
    exact decodeTcp_eq s
  by_cases hudp : h.protocol = 17
  · simp only [if_neg htcp, if_pos hudp]
    exact decodeUdp_eq s
  by_cases hicmp : h.protocol = 1 ∨ h.protocol = 58
  · simp only [if_neg htcp, if_neg hudp, if_pos hicmp]
    exact decodeIcmp_eq s h.v6
  · simp only [if_neg htcp, if_neg hudp, if_neg hicmp]
    rfl

end Layer4

/-- The version in the first octet. -/
def version (ip : List (BitVec 8)) : BitVec 8 := octet ip 0 >>> 4

/-- The length an IPv4 header claims for itself. -/
def headerLength (ip : List (BitVec 8)) : Nat := (octet ip 0 &&& 0x0f).toNat * 4

/-- The thirteen bits of an IPv4 header that place a fragment. -/
def fragmentOffset (ip : List (BitVec 8)) : BitVec 16 := half ip 6 &&& 0x1fff

/-- What `decode_v4` goes on with. -/
def ReadsV4 (ip : List (BitVec 8)) : Prop :=
  version ip = 4 ∧ 20 ≤ ip.length ∧ headerLength ip ≤ ip.length

/-- What `decode_v6` goes on with. -/
def ReadsV6 (ip : List (BitVec 8)) : Prop := version ip = 6 ∧ 40 ≤ ip.length

instance (ip : List (BitVec 8)) : Decidable (ReadsV4 ip) := by
  unfold ReadsV4; infer_instance

instance (ip : List (BitVec 8)) : Decidable (ReadsV6 ip) := by
  unfold ReadsV6; infer_instance

/-- The octets behind an IPv4 header. -/
def v4Header (ip : List (BitVec 8)) : Header where
  v6 := false
  protocol := octet ip 9
  octets := ip.drop (headerLength ip)

/-- The octets behind an IPv6 header. -/
def v6Header (ip : List (BitVec 8)) : Header where
  v6 := true
  protocol := octet ip 6
  octets := ip.drop 40

/-- The octets behind the IP header. -/
def behindHeader (ip : List (BitVec 8)) : Option Header :=
  if ReadsV4 ip then some (v4Header ip)
  else if ReadsV6 ip then some (v6Header ip)
  else none

/-- The fields of an IPv4 header. -/
def v4Fields (ip : List (BitVec 8)) : PacketSummary where
  family := .v4
  ttl := (octet ip 8).setWidth 32
  ipProtocol := (octet ip 9).setWidth 32
  source := some ⟨(ip.take 16).drop 12⟩
  destination := some ⟨(ip.take 20).drop 16⟩

/-- The fields of an IPv6 header. -/
def v6Fields (ip : List (BitVec 8)) : PacketSummary where
  family := .v6
  ttl := (octet ip 7).setWidth 32
  ipProtocol := (octet ip 6).setWidth 32
  source := some ⟨(ip.take 24).drop 8⟩
  destination := some ⟨(ip.take 40).drop 24⟩

/-- The fields of an IP header and of what is behind it. -/
def summaryOf (fields : PacketSummary) (h : Header) : PacketSummary :=
  { fields with protocolName := h.protocolName }.withTransport h.read

/-- The summary of the octets of an IP packet. -/
def ipSummary (ip : List (BitVec 8)) : PacketSummary :=
  match behindHeader ip with
  | some h =>
    let s := summaryOf (if h.v6 then v6Fields ip else v4Fields ip) h
    { s with description := describe s }
  | none => {}

section Packet

variable {w : Nat} {ip : List (BitVec 8)}

/-- An IPv4 packet whose header is there is read as it says. -/
theorem decodeV4_eq (hw : 2 ^ 16 ≤ 2 ^ w) (h : ReadsV4 ip) :
    decodeV4 w ip {} = .ok (summaryOf (v4Fields ip) (v4Header ip)) := by
  obtain ⟨-, hlong, hinside⟩ := h
  have hihl : headerLength ip ≤ 60 := Icmp.nibble_mul_le (octet ip 0)
  have hmul : (mul w (octet ip 0 &&& 0x0f).toNat 4 : Run Empty Nat) = .ok (headerLength ip) :=
    mul_eq (by unfold headerLength at hihl; omega)
  rw [decodeV4, if_neg hlong.not_gt, index_octet (by omega), ok_bind, hmul, ok_bind,
    if_neg hinside.not_gt, index_octet (by omega), ok_bind, index_octet (by omega), ok_bind,
    slice_eq (by omega) (by omega), ok_bind, slice_eq (by omega) (by omega), ok_bind,
    sliceFrom_eq hinside, ok_bind]
  exact decodeL4_eq (v4Fields ip) (v4Header ip)

/-- An IPv4 packet whose header is cut off is nothing. -/
theorem decodeV4_short (hw : 2 ^ 16 ≤ 2 ^ w) (hversion : version ip = 4) (h : ¬ ReadsV4 ip) :
    decodeV4 w ip {} = .ok {} := by
  unfold decodeV4
  split
  · rfl
  have hihl : headerLength ip ≤ 60 := Icmp.nibble_mul_le (octet ip 0)
  have hmul : (mul w (octet ip 0 &&& 0x0f).toNat 4 : Run Empty Nat) = .ok (headerLength ip) :=
    mul_eq (by unfold headerLength at hihl; omega)
  rw [index_octet (by omega), ok_bind, hmul, ok_bind, if_pos]
  · rfl
  · by_contra hinside
    exact h ⟨hversion, by omega, by omega⟩

/-- An IPv6 packet whose header is there is read as it says. -/
theorem decodeV6_eq (h : ReadsV6 ip) :
    decodeV6 ip {} = .ok (summaryOf (v6Fields ip) (v6Header ip)) := by
  obtain ⟨-, hlong⟩ := h
  rw [decodeV6, if_neg hlong.not_gt, index_octet (by omega), ok_bind, index_octet (by omega),
    ok_bind, slice_eq (by omega) (by omega), ok_bind, slice_eq (by omega) (by omega), ok_bind,
    sliceFrom_eq hlong, ok_bind]
  exact decodeL4_eq (v6Fields ip) (v6Header ip)

/-- The arm for the version, with the description behind it. -/
theorem decodeVersion_eq (hw : 2 ^ 16 ≤ 2 ^ w) :
    (do let s ← decodeVersion w (version ip) ip {}
        return { s with description := describe s } : Run Empty PacketSummary) =
      .ok (ipSummary ip) := by
  unfold decodeVersion ipSummary behindHeader
  -- By the version, and by whether its header is all there.
  by_cases h4 : version ip = 4
  · have h6 : ¬ ReadsV6 ip := fun h => absurd (h4.symm.trans h.1) (by decide)
    rw [if_pos h4]
    by_cases hv4 : ReadsV4 ip
    · rw [decodeV4_eq hw hv4, if_pos hv4]
      rfl
    · rw [decodeV4_short hw h4 hv4, if_neg hv4, if_neg h6]
      rfl
  have hv4 : ¬ ReadsV4 ip := fun h => h4 h.1
  rw [if_neg h4, if_neg hv4]
  by_cases h6 : version ip = 6
  · rw [if_pos h6]
    by_cases hv6 : ReadsV6 ip
    · rw [decodeV6_eq hv6, if_pos hv6]
      rfl
    · have hshort : ip.length < 40 := by
        by_contra hlong
        exact hv6 ⟨h6, by omega⟩
      rw [decodeV6, if_pos hshort, if_neg hv6]
      rfl
  · have hv6 : ¬ ReadsV6 ip := fun h => h6 h.1
    rw [if_neg h6, if_neg hv6]
    rfl

end Packet

/-! ### Behind the link header -/

/-- The type field of an Ethernet frame. -/
def etherType (data : List (BitVec 8)) : BitVec 16 := half data 12

/-- The frame has an 802.1Q tag, and a type behind it. -/
def Tagged (data : List (BitVec 8)) : Prop := etherType data = 0x8100 ∧ 18 ≤ data.length

/-- The types of IPv4 and IPv6. -/
def IsIp (type : BitVec 16) : Prop := type = 0x0800 ∨ type = 0x86dd

instance (data : List (BitVec 8)) : Decidable (Tagged data) := by
  unfold Tagged; infer_instance

instance (type : BitVec 16) : Decidable (IsIp type) := by
  unfold IsIp; infer_instance

/-- The type of what a frame carries: the inner one if it is tagged. -/
def networkType (data : List (BitVec 8)) : BitVec 16 :=
  if Tagged data then half data 16 else etherType data

/-- Where `decode` looks for an IP packet.  The type behind a tag is not read. -/
def ipPacket (data : List (BitVec 8)) (linkType : LinkType) : Option (List (BitVec 8)) :=
  if linkType = .ethernet then
    if data.length < 14 then none
    else if IsIp (etherType data) then some (data.drop 14)
    else if Tagged data then some (data.drop 18)
    else none
  else some data

/-- The IP packet the octets hold. -/
def carriedPacket (data : List (BitVec 8)) (linkType : LinkType) : Option (List (BitVec 8)) :=
  if linkType = .ethernet then
    if 14 ≤ data.length ∧ IsIp (networkType data) then
      some (data.drop (if Tagged data then 18 else 14))
    else none
  else some data

/-- The summary of an ARP frame. -/
def arpSummary : PacketSummary := { protocolName := "ARP", description := "ARP" }

section Link

variable {w : Nat} {data ip : List (BitVec 8)} {linkType : LinkType}

/-- What `decode` does once it has the IP packet. -/
theorem decodeIp_eq (hw : 2 ^ 16 ≤ 2 ^ w) (ip : List (BitVec 8)) :
    (if ip.isEmpty then return {}
      else do
        let first ← index ip 0
        let s ← decodeVersion w (first >>> 4) ip {}
        return { s with description := describe s } : Run Empty PacketSummary) =
      .ok (ipSummary ip) := by
  cases ip with
  | nil => rfl
  | cons b bs =>
    have hfirst : (index (b :: bs) 0 : Run Empty _) = .ok (octet (b :: bs) 0) :=
      index_octet (by simp)
    rw [if_neg (by simp), hfirst, ok_bind]
    exact decodeVersion_eq hw

/-- Where the link header leads to a packet, the packet is decoded. -/
theorem decode_of_ipPacket (hw : 2 ^ 16 ≤ 2 ^ w) (h : ipPacket data linkType = some ip) :
    decode w data linkType = .ok (ipSummary ip) := by
  -- Untagged, tagged, or bare IP.
  have hlink : linkPayload data linkType {} = .ok (.inr ip) := by
    unfold ipPacket at h
    unfold linkPayload
    split_ifs at h ⊢ with heth hshort hip htag
    · rw [be16_half (by omega), ok_bind]
      have hip : half data 12 = 0x0800 ∨ half data 12 = 0x86dd := hip
      rw [if_pos hip, sliceFrom_eq (by omega)]
      cases h
      rfl
    · rw [be16_half (by omega), ok_bind]
      have hip : ¬ (half data 12 = 0x0800 ∨ half data 12 = 0x86dd) := hip
      have htag : half data 12 = 0x8100 ∧ 18 ≤ data.length := htag
      have harp : ¬ half data 12 = 0x0806 := by
        rw [htag.1]
        decide
      rw [if_neg hip, if_neg harp, if_pos htag, sliceFrom_eq htag.2]
      cases h
      rfl
    · cases h
      rfl
  unfold decode
  dsimp only
  rw [hlink, ok_bind]
  exact decodeIp_eq hw ip

/-- Where it does not, only ARP is told from nothing. -/
theorem decode_of_none (h : ipPacket data linkType = none) :
    decode w data linkType =
      .ok (if 14 ≤ data.length ∧ etherType data = 0x0806 then arpSummary else {}) := by
  have hlink : linkPayload data linkType {} =
      .ok (.inl (if 14 ≤ data.length ∧ etherType data = 0x0806 then arpSummary else {})) := by
    unfold ipPacket at h
    unfold linkPayload
    split_ifs at h with heth hshort hip htag
    · rw [if_pos heth, if_pos hshort, if_neg (fun harp => absurd harp.1 (by omega))]
      rfl
    · have hip : ¬ (half data 12 = 0x0800 ∨ half data 12 = 0x86dd) := hip
      have htag : ¬ (half data 12 = 0x8100 ∧ 18 ≤ data.length) := htag
      rw [if_pos heth, if_neg hshort, be16_half (by omega), ok_bind, if_neg hip, if_neg htag]
      unfold etherType
      -- ARP is the one other type with a summary.
      by_cases harp : half data 12 = 0x0806
      · rw [if_pos harp, if_pos ⟨by omega, harp⟩]
        rfl
      · rw [if_neg harp, if_neg (fun h => harp h.2)]
        rfl
  unfold decode
  dsimp only
  rw [hlink, ok_bind]
  rfl

end Link

/-! ### Whose fields they are -/

/-- No transport header follows this IPv4 header: it claims less than its fixed part, or the
    packet is a fragment other than the first. -/
def Headless (ip : List (BitVec 8)) : Prop :=
  version ip = 4 ∧ (headerLength ip < 20 ∨ fragmentOffset ip ≠ 0)

instance (ip : List (BitVec 8)) : Decidable (Headless ip) := by
  unfold Headless; infer_instance

/-- The transport header in the octets of a packet, if it has one. -/
def transportHeader (data : List (BitVec 8)) (linkType : LinkType) : Option Header :=
  (carriedPacket data linkType).bind fun ip => if Headless ip then none else behindHeader ip

/-- The summary speaks of the transport header only, and so does every port filter: the port it
    matches on is one of that header, or the zero of a packet that has none. -/
structure Grounded (data : List (BitVec 8)) (linkType : LinkType) (summary : PacketSummary) :
    Prop where
  fields : summary.transport = ((transportHeader data linkType).map Header.read).getD .unset
  ports : ∀ filter : CaptureFilter, filter.ports ≠ [] → passes summary filter = true →
    ∃ p ∈ filter.ports, p = 0 ∨ ∃ h, transportHeader data linkType = some h ∧
      (h.protocol = 6 ∨ h.protocol = 17) ∧
      (p = h.read.sourcePort ∨ p = h.read.destinationPort)

/-- A tag hides that the frame carries something else than IP. -/
def Hidden (data : List (BitVec 8)) (linkType : LinkType) : Prop :=
  linkType = .ethernet ∧ Tagged data ∧ ¬ IsIp (networkType data)

instance (data : List (BitVec 8)) (linkType : LinkType) : Decidable (Hidden data linkType) := by
  unfold Hidden; infer_instance

/-- Octets that are no transport header are read as one, and not all of them are zero. -/
def Misread (data : List (BitVec 8)) (linkType : LinkType) : Prop :=
  ∃ ip h, ipPacket data linkType = some ip ∧ behindHeader ip = some h ∧ h.HasFields ∧
    (Headless ip ∨ Hidden data linkType)

section Grounded

variable {w : Nat} {data ip : List (BitVec 8)} {linkType : LinkType} {summary : PacketSummary}

/-- The transport fields of a summary are those behind the IP header. -/
theorem ipSummary_transport :
    (ipSummary ip).transport = ((behindHeader ip).map Header.read).getD .unset := by
  unfold ipSummary
  split
  · rename_i h hbehind
    rw [hbehind]
    rfl
  · rename_i hbehind
    rw [hbehind]
    rfl

/-- The transport fields `decode` sets. -/
theorem decode_transport (hw : 2 ^ 16 ≤ 2 ^ w) (h : decode w data linkType = .ok summary) :
    summary.transport =
      (((ipPacket data linkType).bind behindHeader).map Header.read).getD .unset := by
  cases hip : ipPacket data linkType with
  | some ip =>
    rw [decode_of_ipPacket hw hip] at h
    cases h
    exact ipSummary_transport
  | none =>
    rw [decode_of_none hip] at h
    cases h
    split
    · rfl
    · rfl

/-- `decode` looks where the packet is, unless a tag hides something else. -/
theorem carriedPacket_eq (h : ¬ Hidden data linkType) :
    carriedPacket data linkType = ipPacket data linkType := by
  unfold carriedPacket ipPacket
  by_cases heth : linkType = .ethernet
  · simp only [if_pos heth]
    -- Behind a tag the types agree only where the inner one says IP.
    by_cases htag : Tagged data
    · have hip : IsIp (networkType data) := by
        by_contra hother
        exact h ⟨heth, htag, hother⟩
      have houter : ¬ IsIp (etherType data) := by
        rw [htag.1]
        decide
      have hlong := htag.2
      rw [if_pos ⟨by omega, hip⟩, if_pos htag, if_neg (by omega), if_neg houter, if_pos htag]
    · have htype : networkType data = etherType data := if_neg htag
      rw [htype]
      by_cases hshort : data.length < 14
      · rw [if_neg (fun hlong => absurd hlong.1 (by omega)), if_pos hshort]
      · rw [if_neg hshort]
        by_cases hip : IsIp (etherType data)
        · rw [if_pos ⟨by omega, hip⟩, if_neg htag, if_pos hip]
        · rw [if_neg (fun hcarried => hip hcarried.2), if_neg hip, if_neg htag]
  · simp only [if_neg heth]

/-- The header a packet has is the one `decode` reads, if it has any. -/
theorem transportHeader_eq : transportHeader data linkType =
    (ipPacket data linkType).bind fun ip =>
      if Headless ip ∨ Hidden data linkType then none else behindHeader ip := by
  unfold transportHeader
  by_cases hhidden : Hidden data linkType
  · obtain ⟨heth, -, hother⟩ := id hhidden
    have hcarried : carriedPacket data linkType = none := by
      unfold carriedPacket
      rw [if_pos heth, if_neg (fun hcarried => hother hcarried.2)]
    rw [hcarried]
    simp [hhidden]
  · rw [carriedPacket_eq hhidden]
    simp [hhidden]

/-- The fields are those of the header unless something else was read as one. -/
theorem fields_iff : (((ipPacket data linkType).bind behindHeader).map Header.read).getD .unset =
      ((transportHeader data linkType).map Header.read).getD .unset ↔
    ¬ Misread data linkType := by
  rw [transportHeader_eq]
  unfold Misread
  cases hip : ipPacket data linkType with
  | none => simp
  | some ip =>
    cases hbehind : behindHeader ip with
    | none => simp [hbehind]
    | some h =>
      by_cases hbad : Headless ip ∨ Hidden data linkType
      · simp [hbehind, hbad, Header.read_eq_unset]
      · simp [hbehind, hbad]

/-- A filter that matches a port matches one of the summary. -/
theorem exists_port_of_passes {filter : CaptureFilter} (hports : filter.ports ≠ [])
    (h : passes summary filter = true) :
    ∃ p ∈ filter.ports, p = summary.sourcePort ∨ p = summary.destinationPort := by
  unfold passes at h
  dsimp only at h
  split_ifs at h with hprotocol hfamily hhost hport
  simp only [Bool.and_eq_true, Bool.not_eq_eq_eq_not, Bool.not_true, List.isEmpty_eq_false_iff,
    hports, true_and, Bool.or_eq_false_iff, not_and_or, Bool.not_eq_false,
    List.contains_iff_mem, ne_eq, not_false_eq_true] at hport
  rcases hport with hsource | hdestination
  · exact ⟨_, hsource, .inl rfl⟩
  · exact ⟨_, hdestination, .inr rfl⟩

/-- **Ports come from transport headers** exactly when nothing else is read as one: no IPv4 packet
    without such a header, nor a tagged frame that is not IP, has something where the header
    would have its fields. -/
theorem grounded_iff (t : Target) (data : List (BitVec 8)) (linkType : LinkType) :
    ∃ summary, decode t.bits data linkType = .ok summary ∧
      (Grounded data linkType summary ↔ ¬ Misread data linkType) := by
  have hw : 2 ^ 16 ≤ 2 ^ t.bits := le_trans (by decide) t.word_le
  obtain ⟨summary, hsummary, -⟩ := (decode_returns hw data linkType).exists_ok
  refine ⟨summary, hsummary, ?_⟩
  have htransport := decode_transport hw hsummary
  constructor
  · intro hgrounded
    exact fields_iff.mp (htransport.symm.trans hgrounded.fields)
  · intro hread
    have hfields := htransport.trans (fields_iff.mpr hread)
    refine ⟨hfields, fun filter hports hpass => ?_⟩
    -- A port filter that passes has found one of its ports, or zero where nothing was read.
    obtain ⟨p, hp, hmatch⟩ := exists_port_of_passes hports hpass
    refine ⟨p, hp, ?_⟩
    by_cases hzero : p = 0
    · exact .inl hzero
    right
    have hsource := congrArg Transport.sourcePort hfields
    have hdestination := congrArg Transport.destinationPort hfields
    cases hheader : transportHeader data linkType with
    | none =>
      rw [hheader] at hsource hdestination
      rcases hmatch with rfl | rfl
      · exact absurd hsource hzero
      · exact absurd hdestination hzero
    | some h =>
      rw [hheader] at hsource hdestination
      have hport : p = h.read.sourcePort ∨ p = h.read.destinationPort := by
        rcases hmatch with rfl | rfl
        · exact .inl hsource
        · exact .inr hdestination
      refine ⟨h, rfl, Header.protocol_of_port ?_, hport⟩
      rcases hport with rfl | rfl
      · exact .inl hzero
      · exact .inr hzero

/-- The second fragment of a datagram, whose data begins with 0, 53, 0, 53. -/
def secondFragment : List (BitVec 8) :=
  [0x45, 0, 0, 28, 0, 1, 0, 1, 64, 17, 0, 0, 10, 0, 0, 1, 10, 0, 0, 2, 0, 53, 0, 53, 0, 0, 0, 0]

/-- A header that claims to have no octets at all. -/
def emptyHeader : List (BitVec 8) :=
  [0x40, 0, 0, 28, 0, 1, 0, 0, 64, 17, 0, 0, 10, 0, 0, 1, 10, 0, 0, 2, 0, 53, 0, 53, 0, 0, 0, 0]

/-- The fragment passes a filter for DNS, and the other packet one for port 16384: that is what
    its version and type of service look like. -/
theorem data_read_as_ports :
    ∃ fragment malformed, decode 64 secondFragment .raw = .ok fragment ∧
      transportHeader secondFragment .raw = none ∧ passes fragment { ports := [53] } = true ∧
      ¬ Grounded secondFragment .raw fragment ∧
      decode 64 emptyHeader .raw = .ok malformed ∧
      transportHeader emptyHeader .raw = none ∧ passes malformed { ports := [16384] } = true ∧
      ¬ Grounded emptyHeader .raw malformed := by
  have hfragment : decode 64 secondFragment .raw = .ok (ipSummary secondFragment) :=
    decode_of_ipPacket (by decide) rfl
  have hempty : decode 64 emptyHeader .raw = .ok (ipSummary emptyHeader) :=
    decode_of_ipPacket (by decide) rfl
  refine ⟨_, _, hfragment, by decide, by decide, fun h => ?_, hempty, by decide, by decide,
    fun h => ?_⟩
  · exact absurd h.fields (by decide)
  · exact absurd h.fields (by decide)

end Grounded

end Netdiag.Capture
