import Netdiag.Capture.Loop
import Netdiag.Capture.Transport

namespace Netdiag.Capture

/-!
# Capture — frames and their link types

What `decode` of `daemon/src/capture.rs` makes of the link header, and what the client is told
about it.

* `insertTag` — the same frame in a VLAN; `tag_transparent_iff` — when the summary does not
  change, and when a frame is taken for what its type says it is.
* `any_capture_mislabelled` — a capture on every interface is announced with a link type of
  which no Ethernet frame is; `ReadsAlike` — the frames whose summary is right all the same.

Behind an 802.1Q tag `decode` guesses from the first octet of the payload; the type that stands
there is not read.
-/

open Checked

/-! ### Tagged frames -/

/-- The frame with an 802.1Q tag between its addresses and its type. -/
def insertTag (a b : BitVec 8) (f : List (BitVec 8)) : List (BitVec 8) :=
  f.take 12 ++ [0x81, 0x00, a, b] ++ f.drop 12

/-- The payload begins like an IP packet. -/
def LooksLikeIp (payload : List (BitVec 8)) : Prop := ReadsV4 payload ∨ ReadsV6 payload

instance : DecidablePred LooksLikeIp := fun payload =>
  inferInstanceAs (Decidable (ReadsV4 payload ∨ ReadsV6 payload))

/-- What a frame of this type carries is taken for something else behind a tag: ARP for
    nothing, and what looks like an IP packet for one. -/
def Misframed (type : BitVec 16) (payload : List (BitVec 8)) : Prop :=
  type = 0x0806 ∨ ¬ IsIp type ∧ LooksLikeIp payload

/-- The frame is summarised as what its type says. -/
structure Classified (g : List (BitVec 8)) (summary : PacketSummary) : Prop where
  ip : summary.family = .v4 ∨ summary.family = .v6 → IsIp (networkType g)
  arp : summary.protocolName = "ARP" ↔ networkType g = 0x0806

section Tags

variable {w : Nat} {f g ip : List (BitVec 8)} {a b : BitVec 8}

/-- A tag makes the frame four octets longer. -/
theorem length_insertTag (hf : 14 ≤ f.length) : (insertTag a b f).length = f.length + 4 := by
  simp [insertTag]
  omega

/-- An octet of what is left after some were dropped. -/
theorem octet_drop (bs : List (BitVec 8)) (n i : Nat) : octet (bs.drop n) i = octet bs (n + i) := by
  unfold octet
  rw [List.getD_eq_getElem?_getD, List.getElem?_drop, ← List.getD_eq_getElem?_getD]

/-- Where the type was stands the tag, and behind it the type. -/
theorem drop_insertTag (hf : 14 ≤ f.length) : (insertTag a b f).drop 12 =
    0x81 :: 0x00 :: a :: b :: f.drop 12 := by
  have hlen : (f.take 12).length = 12 := by
    rw [List.length_take]
    omega
  rw [insertTag, List.append_assoc, List.drop_append_of_le_length (by omega),
    List.drop_eq_nil_of_le (by omega)]
  rfl

/-- A half word of what is left after some octets were dropped. -/
theorem half_eq_drop (bs : List (BitVec 8)) (n i : Nat) : half bs (n + i) = half (bs.drop n) i := by
  unfold half
  rw [octet_drop, octet_drop, Nat.add_assoc]

/-- The tag is where the type was, and the type behind it. -/
theorem tagged_insertTag (hf : 14 ≤ f.length) : Tagged (insertTag a b f) := by
  constructor
  · show half (insertTag a b f) (12 + 0) = 0x8100
    rw [half_eq_drop, drop_insertTag hf]
    show ofBytes 16 [0x81, 0x00] = 0x8100
    decide
  · rw [length_insertTag hf]
    omega

/-- The payload of the tagged frame is that of the frame. -/
theorem payload_insertTag (hf : 14 ≤ f.length) : (insertTag a b f).drop 18 = f.drop 14 := by
  have hsplit : ∀ bs : List (BitVec 8), bs.drop 18 = (bs.drop 12).drop 6 := by
    intro bs
    rw [List.drop_drop]
  rw [hsplit, drop_insertTag hf]
  show (f.drop 12).drop 2 = f.drop 14
  rw [List.drop_drop]

/-- A header can be read exactly where the payload begins like a packet. -/
theorem behindHeader_isSome : (behindHeader ip).isSome = true ↔ LooksLikeIp ip := by
  unfold behindHeader LooksLikeIp
  split_ifs with hv4 hv6
  · simp [hv4]
  · simp [hv6]
  · simp [hv4, hv6]

/-- What does not look like an IP packet gets the summary of nothing. -/
theorem ipSummary_of_not (h : ¬ LooksLikeIp ip) : ipSummary ip = {} := by
  have hnone : behindHeader ip = none := by
    rw [← Option.not_isSome_iff_eq_none, behindHeader_isSome]
    exact h
  rw [ipSummary, hnone]

/-- The summary has a family exactly where the payload begins like a packet. -/
theorem ipSummary_family : ((ipSummary ip).family = .v4 ∨ (ipSummary ip).family = .v6) ↔
    LooksLikeIp ip := by
  by_cases h : LooksLikeIp ip
  · obtain ⟨header, hheader⟩ := Option.isSome_iff_exists.mp (behindHeader_isSome.mpr h)
    rw [ipSummary, hheader]
    refine ⟨fun _ => h, fun _ => ?_⟩
    show (if header.v6 then v6Fields ip else v4Fields ip).family = .v4 ∨
      (if header.v6 then v6Fields ip else v4Fields ip).family = .v6
    split
    · exact .inr rfl
    · exact .inl rfl
  · rw [ipSummary_of_not h]
    simp [h]

/-- No IP header is summarised as ARP. -/
theorem protocolName_ne_arp (h : Header) : h.protocolName ≠ "ARP" := by
  unfold Header.protocolName
  split_ifs
  · decide
  · decide
  · decide
  · decide
  · intro heq
    have hfirst := congrArg (fun s : String => s.toList.head?) heq
    have hproto : (toString "IP proto ").toList.head? = some 'I' := by decide
    rw [String.toList_append, List.head?_append, hproto, Option.some_or] at hfirst
    exact absurd hfirst (by decide)

/-- No IP packet is summarised as ARP. -/
theorem ipSummary_ne_arp : (ipSummary ip).protocolName ≠ "ARP" := by
  unfold ipSummary
  split
  · exact protocolName_ne_arp _
  · decide

/-- Behind a tag everything is tried as an IP packet. -/
theorem decode_tagged (hw : 2 ^ 16 ≤ 2 ^ w) (h : Tagged g) :
    decode w g .ethernet = .ok (ipSummary (g.drop 18)) := by
  apply decode_of_ipPacket hw
  have hlong := h.2
  have houter : ¬ IsIp (etherType g) := by
    rw [h.1]
    decide
  rw [ipPacket, if_pos rfl, if_neg (by omega), if_neg houter, if_pos h]

/-- A frame whose type says IP is read behind its header. -/
theorem decode_ip (hw : 2 ^ 16 ≤ 2 ^ w) (hg : 14 ≤ g.length) (h : IsIp (etherType g)) :
    decode w g .ethernet = .ok (ipSummary (g.drop 14)) := by
  apply decode_of_ipPacket hw
  rw [ipPacket, if_pos rfl, if_neg (by omega), if_pos h]

/-- A frame of another type is ARP or nothing. -/
theorem decode_other (hg : 14 ≤ g.length) (htag : ¬ Tagged g) (h : ¬ IsIp (etherType g)) :
    decode w g .ethernet = .ok (if etherType g = 0x0806 then arpSummary else {}) := by
  have hnone : ipPacket g .ethernet = none := by
    rw [ipPacket, if_pos rfl, if_neg (by omega), if_neg h, if_neg htag]
  rw [decode_of_none hnone]
  simp [hg]

/-- A tag changes nothing unless it hides what the frame carries. -/
theorem decode_insertTag_iff (hw : 2 ^ 16 ≤ 2 ^ w) (hf : 14 ≤ f.length)
    (htype : etherType f ≠ 0x8100) :
    decode w (insertTag a b f) .ethernet = decode w f .ethernet ↔
      ¬ Misframed (etherType f) (f.drop 14) := by
  rw [decode_tagged hw (tagged_insertTag hf), payload_insertTag hf]
  unfold Misframed
  -- Behind a tag the payload is read as a packet whatever its type, so an IP type makes no
  -- difference.
  by_cases hip : IsIp (etherType f)
  · have harp : etherType f ≠ 0x0806 := by
      intro harp
      rw [harp] at hip
      exact absurd hip (by decide)
    rw [decode_ip hw hf hip]
    refine ⟨fun _ => ?_, fun _ => rfl⟩
    rintro (harp' | ⟨hother, -⟩)
    · exact harp harp'
    · exact hother hip
  have htag : ¬ Tagged f := fun htag => htype htag.1
  rw [decode_other hf htag hip]
  by_cases harp : etherType f = 0x0806
  · rw [if_pos harp]
    refine ⟨fun heq => ?_, fun hnot => absurd (.inl harp) hnot⟩
    have hname := congrArg PacketSummary.protocolName (Except.ok.inj heq)
    exact absurd hname ipSummary_ne_arp
  · rw [if_neg harp]
    constructor
    · intro heq
      rintro (harp' | ⟨-, hlooks⟩)
      · exact harp harp'
      · have hfamily := ipSummary_family.mpr hlooks
        rw [Except.ok.inj heq] at hfamily
        exact absurd hfamily (by decide)
    · intro hnot
      rw [ipSummary_of_not fun hlooks => hnot (.inr ⟨hip, hlooks⟩)]

/-- A frame is what its type says unless a tag hides that. -/
theorem classified_iff (hw : 2 ^ 16 ≤ 2 ^ w) (hg : 14 ≤ g.length) :
    ∃ summary, decode w g .ethernet = .ok summary ∧ (Classified g summary ↔
      ¬ (Tagged g ∧ Misframed (networkType g) (g.drop 18))) := by
  by_cases htag : Tagged g
  · refine ⟨_, decode_tagged hw htag, ?_⟩
    constructor
    · rintro ⟨hip, harp⟩ ⟨-, htype | ⟨hother, hlooks⟩⟩
      · exact ipSummary_ne_arp (harp.mpr htype)
      · exact hother (hip (ipSummary_family.mpr hlooks))
    · intro hnot
      have hframed : ¬ Misframed (networkType g) (g.drop 18) := fun h => hnot ⟨htag, h⟩
      refine ⟨fun hfamily => ?_, fun hname => absurd hname ipSummary_ne_arp, fun htype => ?_⟩
      · by_contra hother
        exact hframed (.inr ⟨hother, ipSummary_family.mp hfamily⟩)
      · exact absurd (.inl htype) hframed
  -- Without a tag the type decides, as it should.
  have htype : networkType g = etherType g := if_neg htag
  have hnot : ¬ (Tagged g ∧ Misframed (networkType g) (g.drop 18)) := fun h => htag h.1
  by_cases hip : IsIp (etherType g)
  · refine ⟨_, decode_ip hw hg hip, fun _ => hnot, fun _ => ⟨fun _ => ?_, ?_⟩⟩
    · rw [htype]
      exact hip
    · refine ⟨fun hname => absurd hname ipSummary_ne_arp, fun harp => ?_⟩
      rw [← htype, harp] at hip
      exact absurd hip (by decide)
  · refine ⟨_, decode_other hg htag hip, fun _ => hnot, fun _ => ?_⟩
    rw [← htype]
    split
    · rename_i harp
      exact ⟨fun hfamily => absurd hfamily (by decide), fun _ => harp, fun _ => rfl⟩
    · rename_i harp
      exact ⟨fun hfamily => absurd hfamily (by decide), fun hname => absurd hname (by decide),
        fun h => absurd h harp⟩

/-- **A tag is transparent** exactly around frames that are not ARP and that look like an IP packet
    only if they are one; and these are the tagged frames that are taken for what they are, like
    every untagged one. -/
theorem tag_transparent_iff (t : Target) :
    (∀ f a b, 14 ≤ f.length → etherType f ≠ 0x8100 →
      (decode t.bits (insertTag a b f) .ethernet = decode t.bits f .ethernet ↔
        ¬ Misframed (etherType f) (f.drop 14))) ∧
    ∀ g, 14 ≤ g.length → ∃ summary, decode t.bits g .ethernet = .ok summary ∧
      (Classified g summary ↔ ¬ (Tagged g ∧ Misframed (networkType g) (g.drop 18))) := by
  have hw : 2 ^ 16 ≤ 2 ^ t.bits := le_trans (by decide) t.word_le
  exact ⟨fun f a b hf htype => decode_insertTag_iff hw hf htype,
    fun g hg => classified_iff hw hg⟩

/-- An ARP request. -/
def arpRequest : List (BitVec 8) :=
  List.replicate 6 0xff ++ [2, 0, 0, 0, 0, 1] ++ [0x08, 0x06] ++ [0, 1, 8, 0, 6, 4, 0, 1]

/-- A frame of another protocol, whose data has the octets of an IPv4 packet. -/
def notIp : List (BitVec 8) :=
  List.replicate 6 0xff ++ [2, 0, 0, 0, 0, 1] ++ [0x88, 0xb5] ++ [0x45] ++ List.replicate 19 0

/-- In a VLAN an ARP request is nothing, and the other frame an IPv4 packet. -/
theorem tag_hides_type :
    decode 64 (insertTag 0 5 arpRequest) .ethernet ≠ decode 64 arpRequest .ethernet ∧
    (∃ summary, decode 64 (insertTag 0 5 arpRequest) .ethernet = .ok summary ∧
      networkType (insertTag 0 5 arpRequest) = 0x0806 ∧ summary = {}) ∧
    ∃ summary, decode 64 (insertTag 0 5 notIp) .ethernet = .ok summary ∧
      networkType (insertTag 0 5 notIp) = 0x88b5 ∧ summary.family = .v4 := by
  have hw : 2 ^ 16 ≤ 2 ^ 64 := by decide
  refine ⟨fun heq => ?_, ⟨_, decode_tagged hw (tagged_insertTag (by decide)), by decide, ?_⟩,
    ⟨_, decode_tagged hw (tagged_insertTag (by decide)), by decide, by decide⟩⟩
  · exact (decode_insertTag_iff hw (by decide) (by decide)).mp heq (.inl (by decide))
  · apply ipSummary_of_not
    unfold LooksLikeIp
    decide

end Tags

/-! ### Captures on every interface -/

/-- The octets of a frame that reach the buffer. -/
def CaptureSocket.received (c : CaptureSocket) (f : Frame) : List (BitVec 8) :=
  (f.bytes.take c.snaplen.toNat).map UInt8.toBitVec

/-- What the client learns about a frame is true of its octets, which begin with the link header of
    the interface it came from: the summary is read behind that header, and the announcement and
    the file header name it. -/
structure Described (t : Target) (s : CaptureCall) (f : Frame) (framing : LinkType) : Prop where
  summary : s.socket.decodeFrame t f = decode t.bits (s.socket.received f) framing
  announced : ∀ now, (s.started now).linkType = framing
  header : ∀ now, (s.started now).pcapFileHeader = pcapHeader framing s.socket.snaplen

/-- The frame read from its first octet on, as a cooked capture reads it, and the frame read behind
    its link header come to the same: both are the same packet, or neither is anything. -/
def ReadsAlike (g : List (BitVec 8)) : Prop :=
  if LooksLikeIp g then ∃ ip, ipPacket g .ethernet = some ip ∧ ipSummary ip = ipSummary g
  else (∀ ip, ipPacket g .ethernet = some ip → ¬ LooksLikeIp ip) ∧
    ¬ (14 ≤ g.length ∧ etherType g = 0x0806)

section Any

variable {t : Target} {s s' : CaptureCall} {os : OpenCalls} {request : StartCaptureRequest}
  {c : CaptureSocket} {id : Nat}

/-- What is decoded is what reached the buffer, under the socket's link type. -/
theorem decodeFrame_eq (c : CaptureSocket) (f : Frame) :
    c.decodeFrame t f = decode t.bits (c.received f) c.linkType := by
  have hcopied : (f.bytes.take c.snaplen.toNat).take
      (min (min f.bytes.length c.snaplen.toNat) c.snaplen.toNat) =
        f.bytes.take c.snaplen.toNat := by
    rw [List.take_take, Nat.min_assoc, Nat.min_self, Nat.min_eq_left (Nat.min_le_right _ _),
      Nat.min_comm, ← List.take_eq_take_min]
  unfold CaptureSocket.decodeFrame CaptureSocket.received recvWithAddr
  dsimp only
  rw [hcopied]

/-- Without an interface the link type is that of cooked captures. -/
theorem open_any (hany : request.interfaceName.isEmpty = true)
    (hopen : CaptureSocket.open os request = .ok c) : c.linkType = .linuxSll := by
  unfold CaptureSocket.open at hopen
  obtain ⟨-, -, hopen⟩ := exists_of_bind_eq_ok hopen
  obtain ⟨interface, hinterface, hopen⟩ := exists_of_bind_eq_ok hopen
  obtain ⟨-, -, hopen⟩ := exists_of_bind_eq_ok hopen
  obtain ⟨-, -, hopen⟩ := exists_of_bind_eq_ok hopen
  obtain ⟨-, -, hopen⟩ := exists_of_bind_eq_ok hopen
  rw [OpenCalls.interface, if_pos hany] at hinterface
  cases hinterface
  cases hopen
  rfl

/-- No step changes the link type of the socket. -/
theorem CaptureCall.Effect.linkType (he : Effect t s s') :
    s'.socket.linkType = s.socket.linkType := by
  cases he <;> first | rfl | rw [send_eq]

/-- The link type is the one the socket was opened with. -/
theorem linkType_of_run
    (hrun : Runs.Steps (CaptureCall.step t) (fun _ _ => True) (.init request id c) s) :
    s.socket.linkType = c.linkType := by
  induction hrun with
  | refl => rfl
  | tail a _ _ hs ih => exact (CaptureCall.step_effect hs).linkType.trans ih

/-- A cooked capture reads a frame from its first octet on. -/
theorem decodeFrame_cooked (hlink : c.linkType = .linuxSll) (f : Frame) :
    c.decodeFrame t f = .ok (ipSummary (c.received f)) := by
  have hw : 2 ^ 16 ≤ 2 ^ t.bits := le_trans (by decide) t.word_le
  have hpacket : ipPacket (c.received f) c.linkType = some (c.received f) := by
    rw [hlink]
    rfl
  rw [decodeFrame_eq, decode_of_ipPacket hw hpacket]

/-- The two readings of a frame agree in just these cases. -/
theorem readsAlike_iff {w : Nat} (hw : 2 ^ 16 ≤ 2 ^ w) (g : List (BitVec 8)) :
    decode w g .ethernet = .ok (ipSummary g) ↔ ReadsAlike g := by
  unfold ReadsAlike
  cases hpacket : ipPacket g .ethernet with
  | some ip =>
    rw [decode_of_ipPacket hw hpacket, Except.ok.injEq]
    have harp : ¬ (14 ≤ g.length ∧ etherType g = 0x0806) := by
      rintro ⟨hlong, harp⟩
      have hip : ¬ IsIp (etherType g) := by
        rw [harp]
        decide
      have htag : ¬ Tagged g := by
        intro htag
        rw [htag.1] at harp
        exact absurd harp (by decide)
      rw [ipPacket, if_pos rfl, if_neg (by omega), if_neg hip, if_neg htag] at hpacket
      cases hpacket
    by_cases hlooks : LooksLikeIp g
    · rw [if_pos hlooks]
      simp
    · rw [if_neg hlooks, ipSummary_of_not hlooks]
      constructor
      · intro heq
        refine ⟨fun ip' h' hbehind => ?_, harp⟩
        cases h'
        have hfamily := ipSummary_family.mpr hbehind
        rw [heq] at hfamily
        exact absurd hfamily (by decide)
      · rintro ⟨hnothing, -⟩
        exact ipSummary_of_not (hnothing ip rfl)
  | none =>
    rw [decode_of_none hpacket, Except.ok.injEq]
    by_cases hlooks : LooksLikeIp g
    · -- without a packet behind the header there is no family
      rw [if_pos hlooks]
      refine ⟨fun heq => ?_, fun ⟨_, h, _⟩ => by cases h⟩
      have hfamily := ipSummary_family.mpr hlooks
      rw [← heq] at hfamily
      split at hfamily
      · exact absurd hfamily (by decide)
      · exact absurd hfamily (by decide)
    · rw [if_neg hlooks, ipSummary_of_not hlooks]
      constructor
      · intro heq
        refine ⟨fun _ h => (by cases h), fun harp => ?_⟩
        rw [if_pos harp] at heq
        exact absurd heq (by decide)
      · rintro ⟨-, harp⟩
        exact if_neg harp

/-- **A capture on every interface** describes none of its Ethernet frames: it is announced, and
    saved, with the link type of a header that no frame of such a capture has.  The summary of a
    frame that does not look like an IP packet from its first octet on is that of nothing; it is
    what the link header says of the frame exactly when the two readings of it agree. -/
theorem any_capture_mislabelled (hany : request.interfaceName.isEmpty = true)
    (hopen : CaptureSocket.open os request = .ok c)
    (hrun : Runs.Steps (CaptureCall.step t) (fun _ _ => True) (.init request id c) s) (f : Frame) :
    ¬ Described t s f .ethernet ∧
    (¬ LooksLikeIp (s.socket.received f) → s.socket.decodeFrame t f = .ok {}) ∧
    (s.socket.decodeFrame t f = decode t.bits (s.socket.received f) .ethernet ↔
      ReadsAlike (s.socket.received f)) := by
  have hlink : s.socket.linkType = .linuxSll := (linkType_of_run hrun).trans (open_any hany hopen)
  refine ⟨fun h => ?_, fun hnot => ?_, ?_⟩
  · have hannounced : s.socket.linkType = .ethernet := h.announced 0
    rw [hlink] at hannounced
    exact absurd hannounced (by decide)
  · rw [decodeFrame_cooked hlink, ipSummary_of_not hnot]
  · rw [decodeFrame_cooked hlink, ← readsAlike_iff (le_trans (by decide) t.word_le)]
    exact eq_comm

/-- A request to capture on every interface, for ports of DNS. -/
def everyInterface : StartCaptureRequest :=
  { filter := some { ports := [53] }, includePayload := true }

/-- A DNS query in a frame to 02:00:00:00:00:02. -/
def dnsFrame : Frame where
  bytes := [2, 0, 0, 0, 0, 2] ++ [2, 0, 0, 0, 0, 1] ++ [0x08, 0x00] ++
    [0x45, 0, 0, 28, 0, 1, 0, 0, 64, 17, 0, 0, 10, 0, 0, 1, 10, 0, 0, 2] ++
    [0xc0, 0, 0, 53, 0, 8, 0, 0]
  now := Calls.reading

/-- The socket of that capture. -/
def anySocket : CaptureSocket where
  linkType := .linuxSll
  interfaceIndex := 0
  interfaceName := "any"
  snaplen := 262144
  stop := false
  packets := 0
  bytes := 0
  filteredOut := 0

/-- The sample capture can be opened. -/
theorem open_everyInterface : CaptureSocket.open {} everyInterface = .ok anySocket := by
  decide +kernel

/-- The kernel lets the capture be opened; a frame comes before anything is announced. -/
theorem any_capture_mislabelled_dns :
    ¬ Described ⟨64, by decide⟩ (.init everyInterface 1 anySocket) dnsFrame .ethernet ∧
    (¬ LooksLikeIp (anySocket.received dnsFrame) →
      anySocket.decodeFrame ⟨64, by decide⟩ dnsFrame = .ok {}) ∧
    (anySocket.decodeFrame ⟨64, by decide⟩ dnsFrame =
        decode 64 (anySocket.received dnsFrame) .ethernet ↔
      ReadsAlike (anySocket.received dnsFrame)) :=
  any_capture_mislabelled (by decide) open_everyInterface (Runs.Steps.refl _) dnsFrame

/-- The filter of the capture passes over the query, which it would let through on the interface
    itself, and the file header says what the frame is not. -/
theorem any_capture_misses_dns :
    CaptureSocket.open {} everyInterface = .ok anySocket ∧
    anySocket.accepts ⟨64, by decide⟩ { ports := [53] } dnsFrame = false ∧
    { anySocket with linkType := .ethernet }.accepts ⟨64, by decide⟩ { ports := [53] }
      dnsFrame = true ∧
    ¬ Described ⟨64, by decide⟩ (.init everyInterface 1 anySocket) dnsFrame .ethernet := by
  refine ⟨open_everyInterface, by decide +kernel, by decide +kernel, fun h => ?_⟩
  exact absurd (h.announced 0) (by decide)

end Any

end Netdiag.Capture
