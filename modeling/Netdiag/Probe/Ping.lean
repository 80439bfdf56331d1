import Netdiag.Probe.Context
import Netdiag.Probe.Echo

namespace Netdiag.Probe.Icmp

/-!
# Probes — ping

`ping` and `wait_for_reply` of `daemon/src/probe/icmp.rs`.  The network is a parameter: what
becomes of a packet, and what the socket brings while its reply is waited for.

* `waitForReply` — the receive loop; `ping` — a request and a wait per sequence number.
* `echoReply` — the identifier and the sequence number of the echo reply in a datagram of a
  raw IPv4 socket, which begins with the IP header.
* `Separates` — the wait ends only on the reply to the request, and replies to others are as
  if they had not come; `Overheard` — one of those comes first that has the same sequence
  number.

Every process sees every reply on a raw socket, and every `ping` numbers its requests from 1.
-/

open Checked ProbeResult

/-! ### The code -/

/-- What the socket brings. -/
inductive RecvEvent
  | datagram (bytes : List (BitVec 8))
  /-- `recv` fails; the error as `explain_io_error` words it. -/
  | error (e : String)
  /-- The readiness was stale. -/
  | wouldBlock
  deriving DecidableEq, Repr

/-- How `timeout(deadline, wait_for_reply(..))` ends.  `replied` names the datagram at which
    `wait_for_reply` returned `Ok(())`. -/
inductive WaitOutcome
  | replied (datagram : List (BitVec 8))
  | failed (e : String)
  | elapsed
  deriving DecidableEq, Repr

/-- `wait_for_reply`, with what comes before the deadline. -/
def waitForReply (t : Target) (v6 : Bool) (kind : SocketKind) (sequence : BitVec 16) :
    List RecvEvent → Run Empty WaitOutcome
  | [] => return .elapsed
  | .wouldBlock :: events => waitForReply t v6 kind sequence events
  | .error e :: _ => return .failed e
  | .datagram d :: events => do
    -- The buffer has 2048 bytes.
    if ← matchesReply t.bits (d.take 2048) v6 kind sequence then return .replied d
    else waitForReply t v6 kind sequence events

/-- What becomes of a request: whether it is sent, what is read after it, and the time the
    reply took. -/
structure Attempt where
  sendError : Option String
  events : List RecvEvent
  rttMs : Nat
  deriving DecidableEq, Repr

/-- `{:?}` of a `SocketKind`. -/
def SocketKind.debug : SocketKind → String
  | .datagram => "Datagram"
  | .raw => "Raw"

section Ping

variable (t : Target) (kind : SocketKind) (id : BitVec 16) (network : List (BitVec 8) → Attempt)
  (target : IpAddr) (count payloadLen : Nat) (ctx : ProbeContext)

/-- The loop of `ping` over the sequence numbers. -/
def pingLoop : List Nat → Run Empty ProbeResult
  | [] =>
    return ((((failure (s!"{target.display} did not answer {max count 1} echo request(s) " ++
      s!"within {ctx.timeoutMs} ms")).with_ "target" target.display).with_ "payload_bytes"
      (toString payloadLen)).with_ "socket" kind.debug).with_ "routing" ctx.describe
  | sequence :: rest => do
    let packet ← buildEcho target.isIpv6 id (BitVec.ofNat 16 sequence)
      (List.replicate payloadLen 0x61) (kind == .raw)
    match (network packet).sendError with
    | some e =>
      return (failure s!"could not send an echo request to {target.display}: {e}").with_
        "routing" ctx.describe
    | none =>
      match ← waitForReply t target.isIpv6 kind (BitVec.ofNat 16 sequence)
        (network packet).events with
      | .replied _ =>
        let rtt := toString (network packet).rttMs
        return ((((((success s!"{target.display} replied in {rtt} ms").with_ "target"
          target.display).with_ "rtt_ms" rtt).with_ "sequence" (toString sequence)).with_
          "payload_bytes" (toString payloadLen)).with_ "socket" kind.debug).with_
          "routing" ctx.describe
      | .failed e => return (failure s!"ICMP receive failed: {e}").with_ "routing" ctx.describe
      -- Timed out on this sequence; try the next one.
      | .elapsed => pingLoop rest

end Ping

/-- `ping`, with the socket `IcmpSocket::open` returns and the process id. -/
def ping (t : Target) (socket : Except String SocketKind) (pid : Nat)
    (network : List (BitVec 8) → Attempt) (target : IpAddr) (count payloadLen : Nat)
    (ctx : ProbeContext) : Run Empty ProbeResult :=
  match socket with
  | .error e =>
    return (failure s!"could not open an ICMP socket: {e}").with_ "routing" ctx.describe
  | .ok kind =>
    pingLoop t kind (BitVec.ofNat 16 (pid &&& 0xffff)) network target count payloadLen ctx
      (List.range' 1 (max count 1))

/-! ### Echo replies on a raw socket -/

variable {t : Target} {d request : List (BitVec 8)} {sequence id : BitVec 16}
  {events : List RecvEvent}

/-- The length of the IPv4 header, which lives in the low nibble of its first octet. -/
def headerLength (d : List (BitVec 8)) : Nat := (d.headD 0 &&& 0x0f).toNat * 4

/-- The identifier and the sequence number of an ICMP message that is an echo reply. -/
def replyFields (icmp : List (BitVec 8)) : Option (BitVec 16 × BitVec 16) :=
  if 8 ≤ icmp.length ∧ icmp.head? = some icmpv4EchoReply then
    some (ofBytes 16 ((icmp.drop 4).take 2), ofBytes 16 ((icmp.drop 6).take 2))
  else none

/-- Those of the echo reply behind the IPv4 header. -/
def echoReply (d : List (BitVec 8)) : Option (BitVec 16 × BitVec 16) :=
  replyFields (d.drop (headerLength d))

/-- The identifier of a request. -/
def requestId (request : List (BitVec 8)) : BitVec 16 := ofBytes 16 ((request.drop 4).take 2)

/-- The sequence number of a request. -/
def requestSequence (request : List (BitVec 8)) : BitVec 16 :=
  ofBytes 16 ((request.drop 6).take 2)

/-- The datagram is the reply to the request. -/
def Genuine (request d : List (BitVec 8)) : Prop :=
  echoReply d = some (requestId request, requestSequence request)

/-- The datagram is a reply to a request of another identifier with the same number. -/
def Foreign (request d : List (BitVec 8)) : Prop :=
  ∃ reply ∈ echoReply d, reply.1 ≠ requestId request ∧ reply.2 = requestSequence request

/-- The datagram is a reply to another process's ping, whatever its number. -/
def OtherPing (request d : List (BitVec 8)) : Prop :=
  ∃ reply ∈ echoReply d, reply.1 ≠ requestId request

instance : Decidable (Genuine request d) := inferInstanceAs (Decidable (_ = _))

instance : Decidable (Foreign request d) := inferInstanceAs (Decidable (∃ reply ∈ _, _))

instance : Decidable (OtherPing request d) := inferInstanceAs (Decidable (∃ reply ∈ _, _))

/-- The event is not a reply to another process. -/
def keeps (request : List (BitVec 8)) : RecvEvent → Bool
  | .datagram d => !decide (OtherPing request d)
  | _ => true

/-- The event that ends the wait for the reply to the request. -/
def Stops (request : List (BitVec 8)) : RecvEvent → Prop
  | .datagram d => Genuine request d
  | .error _ => True
  | .wouldBlock => False

instance (e : RecvEvent) : Decidable (Stops request e) := by
  unfold Stops
  split <;> infer_instance

/-- The event is a reply to another process that has the number of the request. -/
def Interferes (request : List (BitVec 8)) : RecvEvent → Prop
  | .datagram d => Foreign request d
  | _ => False

instance (e : RecvEvent) : Decidable (Interferes request e) := by
  unfold Interferes
  split <;> infer_instance

/-- The wait succeeds on the reply to the request only, and ends as it would if no other
    process were pinging. -/
def Separates (t : Target) (request : List (BitVec 8)) (sequence : BitVec 16)
    (events : List RecvEvent) : Prop :=
  ∃ outcome, waitForReply t false .raw sequence events = .ok outcome ∧
    (∀ d, outcome = .replied d → Genuine request d) ∧
    waitForReply t false .raw sequence (events.filter (keeps request)) = .ok outcome

/-- Another process's reply with the same sequence number comes before anything that ends
    the wait. -/
def Overheard (request : List (BitVec 8)) (events : List RecvEvent) : Prop :=
  ∃ before e after, events = before ++ e :: after ∧ Interferes request e ∧
    ∀ x ∈ before, ¬ Stops request x

/-! ### What the loop does -/

theorem headerLength_le (d : List (BitVec 8)) : headerLength d ≤ 60 := nibble_mul_le _

/-- Only the first eight octets of a message matter. -/
theorem replyFields_take {k : Nat} (hk : 8 ≤ k) (icmp : List (BitVec 8)) :
    replyFields (icmp.take k) = replyFields icmp := by
  have hfield : ∀ i, i + 2 ≤ 8 → ((icmp.take k).drop i).take 2 = (icmp.drop i).take 2 := by
    intro i hi
    rw [List.drop_take, List.take_take, Nat.min_eq_left (by omega)]
  have hfirst : (icmp.take k).head? = icmp.head? := by
    rw [List.head?_take, if_neg (by omega)]
  have hlen : 8 ≤ min k icmp.length ↔ 8 ≤ icmp.length := by omega
  unfold replyFields
  rw [hfield 4 (by omega), hfield 6 (by omega), hfirst, List.length_take]
  simp only [hlen]

/-- The buffer is larger than any two headers. -/
theorem echoReply_take (d : List (BitVec 8)) : echoReply (d.take 2048) = echoReply d := by
  have hhead : headerLength (d.take 2048) = headerLength d := by
    cases d <;> rfl
  have hle := headerLength_le d
  rw [echoReply, echoReply, hhead, List.drop_take, replyFields_take (by omega)]

/-- On a raw IPv4 socket `matches_reply` looks at the sequence number. -/
theorem matchesReply_raw (t : Target) (d : List (BitVec 8)) (sequence : BitVec 16) :
    matchesReply t.bits d false .raw sequence =
      .ok ((echoReply d).any (fun reply => reply.2 == sequence)) := by
  have hbits := t.word_le
  cases d with
  | nil => rfl
  | cons first rest =>
    have hle := nibble_mul_le first
    have hihl : (first &&& 0x0f).toNat * 4 = headerLength (first :: rest) := rfl
    -- A raw socket delivers the IP header, whose length the first octet says.
    have hhead : icmpHeader t.bits (first :: rest) false .raw =
        if (first :: rest).length < headerLength (first :: rest) + 8 then .ok none
        else .ok (some ((first :: rest).drop (headerLength (first :: rest)))) := by
      unfold icmpHeader
      simp only [Bool.not_false, Bool.true_and, beq_self_eq_true, if_true, List.isEmpty_cons,
        Bool.false_eq_true, if_false]
      rw [index_eq (by simp), ok_bind, List.getElem_cons_zero, mul_eq (by omega), ok_bind,
        add_eq (by omega), ok_bind, hihl]
      split
      · rfl
      · rw [sliceFrom_eq (by omega)]
        rfl
    -- Too short for an echo behind it, or long enough to look at type and sequence.
    by_cases hshort : (first :: rest).length < headerLength (first :: rest) + 8
    · have hnone : echoReply (first :: rest) = none := by
        apply if_neg
        rw [List.length_drop]
        omega
      rw [matchesReply, hhead, if_pos hshort, hnone]
      rfl
    · have hicmp : 8 ≤ ((first :: rest).drop (headerLength (first :: rest))).length := by
        rw [List.length_drop]
        omega
      rw [matchesReply, hhead, if_neg hshort, echoReply, replyFields]
      generalize (first :: rest).drop (headerLength (first :: rest)) = icmp at hicmp ⊢
      have hfirst : icmp.head? = some icmp[0] := by
        rw [List.head?_eq_getElem?, List.getElem?_eq_getElem]
      rw [ok_bind]
      simp only
      rw [if_neg (by omega), index_eq (by omega), ok_bind, Dns.be16_eq (by omega), ok_bind, hfirst]
      by_cases htype : icmp[0] = icmpv4EchoReply
      · rw [if_neg (by simpa using htype), if_pos ⟨hicmp, by rw [htype]⟩]
        rfl
      · rw [if_pos (by simpa using htype), if_neg (by simpa using fun _ => htype)]
        rfl

/-- A request carries the identifier and the number it was built with, whatever its
    checksum. -/
theorem fields_of_buildEcho {payload : List (BitVec 8)}
    (h : buildEcho false id sequence payload true = .ok request) :
    requestId request = id ∧ requestSequence request = sequence := by
  unfold buildEcho at h
  simp only [Bool.not_false, Bool.and_self, if_true] at h
  cases hsum : checksum (echoPacket false id sequence payload) with
  | error fault => simp [hsum, bind, Except.bind] at h
  | ok sum =>
    have hlen := length_echoPacket false id sequence payload
    have hhole : (((echoPacket false id sequence payload).take 4).drop 2).length = 2 := by
      rw [List.length_drop, List.length_take]
      omega
    rw [hsum, ok_bind, slice_eq (by omega) (by omega), ok_bind, hhole,
      copyFromSlice_eq (by rfl), ok_bind] at h
    cases h
    exact ⟨Dns.ofBytes_field16 id, Dns.ofBytes_field16 sequence⟩

/-- One datagram of the loop. -/
theorem waitForReply_datagram (t : Target) (sequence : BitVec 16) (d : List (BitVec 8))
    (events : List RecvEvent) :
    waitForReply t false .raw sequence (.datagram d :: events) =
      if (echoReply d).any (fun reply => reply.2 == sequence) then .ok (.replied d)
      else waitForReply t false .raw sequence events := by
  rw [waitForReply, matchesReply_raw, echoReply_take, ok_bind]
  rfl

/-- A datagram that ends the loop is the reply, or one to another process. -/
theorem any_echoReply :
    (echoReply d).any (fun reply => reply.2 == requestSequence request) = true ↔
      Genuine request d ∨ Foreign request d := by
  unfold Genuine Foreign
  cases echoReply d with
  | none => simp
  | some reply =>
    obtain ⟨id, number⟩ := reply
    by_cases hid : id = requestId request
    · simp [hid]
    · simp [hid]

theorem Genuine.not_otherPing (h : Genuine request d) : ¬ OtherPing request d := by
  rintro ⟨reply, hreply, hid⟩
  rw [Option.mem_def, h, Option.some.injEq] at hreply
  rw [← hreply] at hid
  exact hid rfl

theorem Foreign.not_genuine (h : Foreign request d) : ¬ Genuine request d := by
  obtain ⟨reply, hreply, hid, -⟩ := h
  exact fun hgen => hgen.not_otherPing ⟨reply, hreply, hid⟩

/-! ### Who is heard -/

theorem not_overheard_nil : ¬ Overheard request [] := by
  rintro ⟨before, d, after, heq, -⟩
  exact absurd heq (by simp)

/-- The first event is such a reply, or it does not end the wait and one comes later. -/
theorem overheard_cons {e : RecvEvent} :
    Overheard request (e :: events) ↔
      Interferes request e ∨ (¬ Stops request e ∧ Overheard request events) := by
  constructor
  · rintro ⟨before, e', after, heq, hforeign, hbefore⟩
    cases before with
    | nil =>
      simp only [List.nil_append, List.cons.injEq] at heq
      exact .inl (heq.1 ▸ hforeign)
    | cons first before =>
      simp only [List.cons_append, List.cons.injEq] at heq
      obtain ⟨rfl, rfl⟩ := heq
      refine .inr ⟨hbefore e List.mem_cons_self, before, e', after, rfl, hforeign, ?_⟩
      intro x hx
      exact hbefore x (List.mem_cons_of_mem e hx)
  · rintro (hforeign | ⟨hstop, before, e', after, rfl, hforeign, hbefore⟩)
    · exact ⟨[], e, events, rfl, hforeign, by simp⟩
    · refine ⟨e :: before, e', after, rfl, hforeign, ?_⟩
      intro x hx
      rcases List.mem_cons.mp hx with rfl | hx
      · exact hstop
      · exact hbefore x hx

instance decidableOverheard : (events : List RecvEvent) → Decidable (Overheard request events)
  | [] => isFalse not_overheard_nil
  | e :: events =>
    have := decidableOverheard events
    decidable_of_iff (Interferes request e ∨ (¬ Stops request e ∧ Overheard request events))
      overheard_cons.symm

/-- A foreign reply that is overheard is what the wait returns. -/
theorem replied_of_overheard (h : Overheard request events) :
    ∃ d, waitForReply t false .raw (requestSequence request) events = .ok (.replied d) ∧
      ¬ Genuine request d := by
  induction events with
  | nil => exact absurd h not_overheard_nil
  | cons e events ih =>
    rcases overheard_cons.mp h with hforeign | ⟨hstop, hrest⟩
    · cases e with
      | datagram d =>
        refine ⟨d, ?_, Foreign.not_genuine hforeign⟩
        rw [waitForReply_datagram, if_pos (any_echoReply.mpr (.inr hforeign))]
      | error e => exact hforeign.elim
      | wouldBlock => exact hforeign.elim
    · cases e with
      | error e => exact absurd trivial hstop
      | wouldBlock => exact ih hrest
      | datagram d =>
        rw [waitForReply_datagram]
        split
        · exact ⟨d, rfl, hstop⟩
        · exact ih hrest

/-- Without one, the loop reads on "until one of ours shows up". -/
theorem separates_of_not_overheard (h : ¬ Overheard request events) :
    Separates t request (requestSequence request) events := by
  induction events with
  | nil => exact ⟨.elapsed, rfl, fun d hd => (by cases hd), rfl⟩
  | cons e events ih =>
    rw [overheard_cons, not_or, not_and] at h
    obtain ⟨hfirst, hrest⟩ := h
    cases e with
    | error e => exact ⟨.failed e, rfl, fun d hd => (by cases hd), rfl⟩
    | wouldBlock => exact ih (hrest not_false)
    | datagram d =>
      have hforeign : ¬ Foreign request d := hfirst
      by_cases hgen : Genuine request d
      · have hmatch := any_echoReply.mpr (.inl hgen)
        have hkeep : keeps request (.datagram d) = true := by
          simp [keeps, hgen.not_otherPing]
        refine ⟨.replied d, ?_, ?_, ?_⟩
        · rw [waitForReply_datagram, if_pos hmatch]
        · intro d' hd'
          cases hd'
          exact hgen
        · rw [List.filter_cons_of_pos hkeep, waitForReply_datagram, if_pos hmatch]
      · obtain ⟨outcome, hwait, hsound, hfiltered⟩ := ih (hrest hgen)
        have hskip : ¬ (echoReply d).any (fun reply => reply.2 == requestSequence request) := by
          rw [any_echoReply]
          exact not_or.mpr ⟨hgen, hforeign⟩
        refine ⟨outcome, ?_, hsound, ?_⟩
        · rw [waitForReply_datagram, if_neg hskip, hwait]
        · -- Kept or not, the datagram is passed over.
          rw [List.filter_cons]
          split
          · rw [waitForReply_datagram, if_neg hskip, hfiltered]
          · exact hfiltered

/-- **The reply to a request is told from the others** exactly when no reply of the same
    number to another process comes first. -/
theorem separates_iff {payload : List (BitVec 8)}
    (hrequest : buildEcho false id sequence payload true = .ok request) :
    Separates t request sequence events ↔ ¬ Overheard request events := by
  obtain ⟨-, rfl⟩ := fields_of_buildEcho hrequest
  constructor
  · rintro ⟨outcome, hwait, hsound, -⟩ hover
    obtain ⟨d, hd, hforeign⟩ := replied_of_overheard (t := t) hover
    rw [hwait, Except.ok.injEq] at hd
    exact hforeign (hsound d hd)
  · exact separates_of_not_overheard

/-- A 64-bit target. -/
def target64 : Target := ⟨64, by decide⟩

/-- A datagram with an IPv4 header of 20 octets and an echo reply without data. -/
def replyDatagram (id sequence : BitVec 16) : List (BitVec 8) :=
  0x45 :: List.replicate 19 0 ++ [0, 0, 0, 0] ++ Dns.field16 id ++ Dns.field16 sequence

/-- Another process's reply number 7 is passed over. -/
theorem separates_iff_passed_over :
    ∃ request, buildEcho false 0x1234 1 [0x61] true = .ok request ∧
      Separates target64 request 1
        [.datagram (replyDatagram 0x9999 7), .wouldBlock, .datagram (replyDatagram 0x1234 1)] := by
  have hrequest := buildEcho_eq 0x1234 1 [0x61] (by decide)
  exact ⟨_, hrequest, (separates_iff hrequest).mpr (by decide +kernel)⟩

/-- Another process's reply number 1 is taken for the reply to request number 1. -/
theorem replied_to_another_process :
    ∃ request, buildEcho false 0x1234 1 [0x61] true = .ok request ∧
      waitForReply target64 false .raw 1 [.datagram (replyDatagram 0x9999 1)] =
        .ok (.replied (replyDatagram 0x9999 1)) ∧
      ¬ Genuine request (replyDatagram 0x9999 1) ∧
      ¬ Separates target64 request 1 [.datagram (replyDatagram 0x9999 1)] := by
  have hwait : waitForReply target64 false .raw 1 [.datagram (replyDatagram 0x9999 1)] =
      .ok (.replied (replyDatagram 0x9999 1)) := by
    rw [waitForReply_datagram, if_pos (by decide +kernel)]
  have hforeign : ¬ Genuine ((echoPacket false 0x1234 1 [0x61]).take 2 ++
      Dns.field16 (internetChecksum (echoPacket false 0x1234 1 [0x61])) ++
      (echoPacket false 0x1234 1 [0x61]).drop 4) (replyDatagram 0x9999 1) := by
    decide +kernel
  refine ⟨_, buildEcho_eq 0x1234 1 [0x61] (by decide), hwait, hforeign, ?_⟩
  rintro ⟨outcome, hout, hsound, -⟩
  rw [hwait, Except.ok.injEq] at hout
  exact hforeign (hsound _ hout.symm)

/-! ### Ping -/

/-- A `ping` that succeeds has a wait that does. -/
theorem pingLoop_ok {kind : SocketKind} {network : List (BitVec 8) → Attempt} {target : IpAddr}
    {count payloadLen : Nat} {ctx : ProbeContext} {numbers : List Nat} {r : ProbeResult}
    (h : pingLoop t kind id network target count payloadLen ctx numbers = .ok r)
    (hok : r.ok = true) :
    ∃ number ∈ numbers, ∃ packet d,
      buildEcho target.isIpv6 id (BitVec.ofNat 16 number) (List.replicate payloadLen 0x61)
        (kind == .raw) = .ok packet ∧
      waitForReply t target.isIpv6 kind (BitVec.ofNat 16 number) (network packet).events =
        .ok (.replied d) := by
  induction numbers with
  | nil =>
    cases h
    cases hok
  | cons number numbers ih =>
    rw [pingLoop] at h
    cases hbuild : buildEcho target.isIpv6 id (BitVec.ofNat 16 number)
        (List.replicate payloadLen 0x61) (kind == .raw) with
    | error fault =>
      rw [hbuild] at h
      cases h
    | ok packet =>
      rw [hbuild, ok_bind] at h
      split at h
      · cases h
        cases hok
      · cases hwait : waitForReply t target.isIpv6 kind (BitVec.ofNat 16 number)
            (network packet).events with
        | error fault =>
          rw [hwait] at h
          cases h
        | ok outcome =>
          rw [hwait, ok_bind] at h
          -- An answer ends the loop, an error fails it, and silence goes on to the next number.
          cases outcome with
          | replied d => exact ⟨number, List.mem_cons_self, packet, d, hbuild, hwait⟩
          | failed e =>
            cases h
            cases hok
          | elapsed =>
            obtain ⟨n, hn, rest⟩ := ih h
            exact ⟨n, List.mem_cons_of_mem number hn, rest⟩

/-- The datagram at which a wait ends was read. -/
theorem mem_of_replied (h : waitForReply t false .raw sequence events = .ok (.replied d)) :
    .datagram d ∈ events := by
  induction events with
  | nil => cases h
  | cons e events ih =>
    cases e with
    | error e => cases h
    | wouldBlock => exact List.mem_cons_of_mem _ (ih h)
    | datagram d' =>
      rw [waitForReply_datagram] at h
      split at h
      · cases h
        exact List.mem_cons_self
      · exact List.mem_cons_of_mem _ (ih h)

/-- A `ping` over a raw IPv4 socket succeeds on the reply to one of its requests, unless
    another process's reply of the same number was overheard. -/
theorem ping_genuine {pid : Nat} {network : List (BitVec 8) → Attempt} {target : IpAddr}
    {count payloadLen : Nat} {ctx : ProbeContext} {r : ProbeResult}
    (hv4 : target.isIpv6 = false)
    (h : ping t (.ok .raw) pid network target count payloadLen ctx = .ok r) (hok : r.ok = true)
    (hquiet : ∀ packet, ¬ Overheard packet (network packet).events) :
    ∃ number ∈ List.range' 1 (max count 1), ∃ packet d, .datagram d ∈ (network packet).events ∧
      echoReply d = some (BitVec.ofNat 16 (pid &&& 0xffff), BitVec.ofNat 16 number) := by
  obtain ⟨number, hnumber, packet, d, hbuild, hwait⟩ := pingLoop_ok h hok
  rw [hv4] at hbuild hwait
  obtain ⟨hid, hseq⟩ := fields_of_buildEcho hbuild
  obtain ⟨outcome, hout, hsound, -⟩ := separates_of_not_overheard (t := t) (hquiet packet)
  rw [hseq, hwait, Except.ok.injEq] at hout
  have hgen : Genuine packet d := hsound d hout.symm
  rw [Genuine, hid, hseq] at hgen
  exact ⟨number, hnumber, packet, d, mem_of_replied hwait, hgen⟩

end Netdiag.Probe.Icmp
