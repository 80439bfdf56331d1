import Mathlib.Algebra.Ring.Nat
import Mathlib.Data.List.Basic
import Mathlib.Tactic.Common

namespace Netdiag.Collect

/-!
# Collect — one `inet_diag` dump

The receiving half of `dump` (`daemon/src/collect/sockets.rs`): datagrams of netlink messages,
read up to the message that ends the dump.  What parses one message is a parameter.

* `scan` — the inner loop, over one datagram; `dump` — the outer one.
* `Message`, `Padded`, `Reply` — messages as netlink packs them: each at the next offset that is a
  multiple of four, the padding not counted in the length.
* `outcome` — what the loops make of messages, with no octets in sight; `dump_eq` ties the two.
* `dump_exact` — when a dump returns the responses of its reply and no more of the socket is
  read.

The loop advances by the length a message claims, and so into its padding.
-/

/-! ### The loops -/

/-- `NetlinkPayload<SockDiagMessage>`; of an error its code, if it has one, and its text. -/
inductive Payload (ρ : Type)
  | done
  | error (code : Option Int) (text : String)
  | inetResponse (response : ρ)
  | other
  deriving DecidableEq, Repr

/-- `NetlinkMessage`: the length in its header, and the payload. -/
structure NetlinkMessage (ρ : Type) where
  length : Nat
  payload : Payload ρ
  deriving DecidableEq, Repr

/-- `NetlinkMessage::deserialize`, on what is left of a buffer. -/
abbrev Deserialize (ρ : Type) := List UInt8 → Except String (NetlinkMessage ρ)

/-- How the inner loop ends: with the datagram, with the whole dump, or with an error. -/
inductive Scan (ρ : Type)
  | more (out : List ρ)
  | stop (out : List ρ)
  | fail (e : String)
  deriving DecidableEq, Repr

/-- `libc::ENOENT`. -/
def enoent : Int := 2

/-- What is sent to the caller for a message that does not parse. -/
def malformed : String := "malformed inet_diag response"

/-- What is sent to the caller for an error of the kernel. -/
def kernelError (text : String) : String := s!"inet_diag returned an error: {text}"

variable {ρ : Type}

/-- The inner loop over `receive_buffer`, from this offset on.  The check at its end is the one at
    its head again. -/
def scan (deserialize : Deserialize ρ) (buffer : List UInt8) (offset : Nat) (out : List ρ) :
    Scan ρ :=
  if buffer.length ≤ offset then .more out
  else
    match deserialize (buffer.drop offset) with
    | .error _ => .fail malformed
    | .ok message =>
      if message.length = 0 then .stop out
      else
        match message.payload with
        | .done => .stop out
        -- ENOENT here just means "no sockets of this kind".
        | .error code text =>
          if code.getD 0 = -enoent then .stop out else .fail (kernelError text)
        | .inetResponse response =>
          scan deserialize buffer (offset + message.length) (out ++ [response])
        | .other => scan deserialize buffer (offset + message.length) out
  termination_by buffer.length - offset
  decreasing_by
    all_goals omega

/-- What `recv_from_full` brings: a datagram, or an error. -/
abbrev Received := Except String (List UInt8)

/-- The outer loop: what it returns, and what has not been received by then.  Without an end it
    goes on waiting. -/
def receive (deserialize : Deserialize ρ) :
    List Received → List ρ → Option (Except String (List ρ) × List Received)
  | [], _ => none
  | .error _ :: later, _ => some (.error "failed to read the inet_diag dump", later)
  | .ok bytes :: later, out =>
    match scan deserialize bytes 0 out with
    | .more out => receive deserialize later out
    | .stop out => some (.ok out, later)
    | .fail e => some (.error e, later)

/-- `dump`, from the request on: whether it is sent, and what is received after it. -/
def dump (deserialize : Deserialize ρ) (sent : Except String Unit) (received : List Received) :
    Option (Except String (List ρ) × List Received) :=
  match sent with
  | .error _ => some (.error "failed to send the inet_diag dump request", received)
  | .ok _ => receive deserialize received []

/-! ### Messages as netlink packs them -/

/-- The octets of a message, which parse as one whatever follows them. -/
structure Message (deserialize : Deserialize ρ) where
  bytes : List UInt8
  payload : Payload ρ
  header_le : 16 ≤ bytes.length
  parses : ∀ rest, deserialize (bytes ++ rest) = .ok ⟨bytes.length, payload⟩

/-- A message with the zeros between it and the next multiple of four. -/
structure Padded (deserialize : Deserialize ρ) extends Message deserialize where
  padding : Nat

namespace Padded

variable {deserialize : Deserialize ρ}

/-- The octets of a message and its padding. -/
def octets (m : Padded deserialize) : List UInt8 := m.bytes ++ List.replicate m.padding 0

/-- The padding up to the next multiple of four. -/
def gap (m : Padded deserialize) : Nat := (4 - m.bytes.length % 4) % 4

/-- The response in a message. -/
def response? (m : Padded deserialize) : Option ρ :=
  match m.payload with
  | .inetResponse response => some response
  | _ => none

/-- The message ends a dump. -/
def ends (m : Padded deserialize) : Bool :=
  match m.payload with
  | .done => true
  | .error _ _ => true
  | _ => false

end Padded

/-- The octets of a datagram. -/
def datagram {deserialize : Deserialize ρ} (ms : List (Padded deserialize)) : List UInt8 :=
  ms.flatMap Padded.octets

/-- Each message starts at the next multiple of four; the last may or may not be padded. -/
def PackedDatagram {deserialize : Deserialize ρ} : List (Padded deserialize) → Prop
  | [] => True
  | [m] => m.padding = m.gap ∨ m.padding = 0
  | m :: ms => m.padding = m.gap ∧ PackedDatagram ms

/-- The kernel's reply to a dump request: datagrams of messages, in the last of them the message
    `NLMSG_DONE` after the others. -/
structure Reply (deserialize : Deserialize ρ) where
  before : List (List (Padded deserialize))
  last : List (Padded deserialize)
  done : Padded deserialize
  done_payload : done.payload = .done
  not_done : ∀ m ∈ before.flatten ++ last, m.payload ≠ .done
  packed_before : ∀ ms ∈ before, PackedDatagram ms
  packed_last : PackedDatagram (last ++ [done])

namespace Reply

variable {deserialize : Deserialize ρ}

/-- The messages before `NLMSG_DONE`. -/
def messages (reply : Reply deserialize) : List (Padded deserialize) :=
  reply.before.flatten ++ reply.last

/-- The responses before `NLMSG_DONE`. -/
def responses (reply : Reply deserialize) : List ρ := reply.messages.filterMap Padded.response?

/-- The messages of each datagram. -/
def datagrams (reply : Reply deserialize) : List (List (Padded deserialize)) :=
  reply.before ++ [reply.last ++ [reply.done]]

/-- What is received: the datagrams of the reply, and whatever comes later. -/
def received (reply : Reply deserialize) (later : List Received) : List Received :=
  (reply.datagrams.map fun ms => .ok (datagram ms)) ++ later

/-- The dump returns the responses of its reply, and receives nothing of what comes later. -/
def Exact (reply : Reply deserialize) (later : List Received) : Prop :=
  ∃ unread, dump deserialize (.ok ()) (reply.received later) =
    some (.ok reply.responses, unread ++ later)

end Reply

/-! ### The loops over messages -/

section Outcome

variable {deserialize : Deserialize ρ}

/-- What the loops make of these messages: padding that is met is not a message. -/
def outcome : List (Padded deserialize) → List ρ → Scan ρ
  | [], out => .more out
  | m :: ms, out =>
    match m.payload with
    | .done => .stop out
    -- There are no sockets of this kind.
    | .error code text => if code.getD 0 = -enoent then .stop out else .fail (kernelError text)
    | .inetResponse response =>
      if m.padding = 0 then outcome ms (out ++ [response]) else .fail malformed
    | .other => if m.padding = 0 then outcome ms out else .fail malformed

/-- Padding that the loop gets to, with the messages of the datagram behind it, does not
    parse. -/
def Readable : List (Padded deserialize) → Prop
  | [] => True
  | m :: ms => m.ends = true ∨
    (m.padding = 0 ∨ ∃ e, deserialize (List.replicate m.padding 0 ++ datagram ms) = .error e) ∧
      Readable ms

/-- The loop gets to this datagram only over messages that do not end the dump. -/
def ReadableAll : List (List (Padded deserialize)) → Prop
  | [] => True
  | ms :: datagrams => Readable ms ∧ ((∀ m ∈ ms, m.ends = false) → ReadableAll datagrams)

variable {buffer : List UInt8} {offset : Nat} {out : List ρ} {ms ns : List (Padded deserialize)}

/-- The first message, its padding, and the others. -/
theorem datagram_cons (m : Padded deserialize) (ms : List (Padded deserialize)) :
    datagram (m :: ms) = m.bytes ++ (List.replicate m.padding 0 ++ datagram ms) := by
  rw [datagram, List.flatMap_cons, Padded.octets, List.append_assoc]
  rfl

/-- At the end of the datagram. -/
theorem scan_of_le (h : buffer.length ≤ offset) :
    scan deserialize buffer offset out = .more out := by
  rw [scan, if_pos h]

/-- Where no message parses. -/
theorem scan_of_error {rest : List UInt8} {e : String} (h : buffer.drop offset = rest)
    (hrest : rest ≠ []) (herror : deserialize rest = .error e) :
    scan deserialize buffer offset out = .fail malformed := by
  have hlt : ¬ buffer.length ≤ offset := by
    intro hle
    rw [List.drop_eq_nil_of_le hle] at h
    exact hrest h.symm
  rw [scan, if_neg hlt, h, herror]

/-- Where a message stands, whatever is behind it. -/
theorem scan_message {m : Padded deserialize} {rest : List UInt8}
    (h : buffer.drop offset = m.bytes ++ rest) :
    buffer.drop (offset + m.bytes.length) = rest ∧
    scan deserialize buffer offset out =
      match m.payload with
      | .done => .stop out
      | .error code text => if code.getD 0 = -enoent then .stop out else .fail (kernelError text)
      | .inetResponse response =>
        scan deserialize buffer (offset + m.bytes.length) (out ++ [response])
      | .other => scan deserialize buffer (offset + m.bytes.length) out := by
  have hheader := m.header_le
  have hlt : ¬ buffer.length ≤ offset := by
    intro hle
    rw [List.drop_eq_nil_of_le hle] at h
    have hlen := congrArg List.length h
    rw [List.length_append, List.length_nil] at hlen
    omega
  constructor
  · rw [← List.drop_drop, h, List.drop_left]
  · rw [scan, if_neg hlt, h, m.parses]
    dsimp only
    rw [if_neg (by omega)]

/-- Padding stops the loop, or there is none. -/
theorem scan_padding {m : Padded deserialize}
    (h : buffer.drop offset = List.replicate m.padding 0 ++ datagram ms)
    (hread : m.padding = 0 ∨
      ∃ e, deserialize (List.replicate m.padding 0 ++ datagram ms) = .error e)
    (hrest : buffer.drop offset = datagram ms →
      scan deserialize buffer offset out = outcome ms out) :
    scan deserialize buffer offset out =
      if m.padding = 0 then outcome ms out else .fail malformed := by
  by_cases hzero : m.padding = 0
  · rw [if_pos hzero]
    apply hrest
    rw [h, hzero]
    rfl
  · obtain ⟨e, he⟩ := hread.resolve_left hzero
    have hne : List.replicate m.padding 0 ++ datagram ms ≠ [] := by simp [hzero]
    rw [if_neg hzero, scan_of_error h hne he]

/-- The loop over a datagram finds its messages, one after the other. -/
theorem scan_eq (hread : Readable ms) (h : buffer.drop offset = datagram ms) :
    scan deserialize buffer offset out = outcome ms out := by
  induction ms generalizing offset out with
  | nil => exact scan_of_le (List.drop_eq_nil_iff.mp h)
  | cons m ms ih =>
    rw [datagram_cons] at h
    obtain ⟨hnext, hscan⟩ := scan_message h
    rw [hscan, outcome]
    cases hpayload : m.payload with
    | done => rfl
    | error code text => rfl
    | inetResponse response =>
      have hgoes : m.ends ≠ true := by simp [Padded.ends, hpayload]
      obtain ⟨hpad, hrest⟩ := hread.resolve_left hgoes
      exact scan_padding hnext hpad fun h => ih hrest h
    | other =>
      have hgoes : m.ends ≠ true := by simp [Padded.ends, hpayload]
      obtain ⟨hpad, hrest⟩ := hread.resolve_left hgoes
      exact scan_padding hnext hpad fun h => ih hrest h

/-- What some messages and then others come to. -/
theorem outcome_append (ms ns : List (Padded deserialize)) (out : List ρ) :
    outcome (ms ++ ns) out =
      match outcome ms out with
      | .more out => outcome ns out
      | .stop out => .stop out
      | .fail e => .fail e := by
  induction ms generalizing out with
  | nil => rfl
  | cons m ms ih =>
    rw [List.cons_append, outcome, outcome]
    cases m.payload with
    | done => rfl
    | error code text =>
      dsimp only
      split
      · rfl
      · rfl
    -- A response is kept, and the dump goes on if the padding was counted.
    | inetResponse response =>
      dsimp only
      split
      · exact ih _
      · rfl
    | other =>
      dsimp only
      split
      · exact ih _
      · rfl

/-- The loop goes on behind messages none of which ends the dump. -/
theorem ends_of_more {out' : List ρ} (h : outcome ms out = .more out') :
    ∀ m ∈ ms, m.ends = false := by
  induction ms generalizing out with
  | nil => simp
  | cons m ms ih =>
    rw [outcome] at h
    intro n hn
    cases hpayload : m.payload with
    -- Only `done` and an error end a dump.
    | done => simp [hpayload] at h
    | error code text =>
      rw [hpayload] at h
      dsimp only at h
      split at h <;> cases h
    | inetResponse response =>
      rw [hpayload] at h
      dsimp only at h
      split at h
      · rcases List.mem_cons.mp hn with rfl | hn
        · simp [Padded.ends, hpayload]
        · exact ih h n hn
      · cases h
    | other =>
      rw [hpayload] at h
      dsimp only at h
      split at h
      · rcases List.mem_cons.mp hn with rfl | hn
        · simp [Padded.ends, hpayload]
        · exact ih h n hn
      · cases h

/-- The outer loop over datagrams of messages. -/
theorem receive_eq {datagrams : List (List (Padded deserialize))} (hread : ReadableAll datagrams)
    (later : List Received) (out : List ρ) :
    match outcome datagrams.flatten out with
    | .more out' => receive deserialize ((datagrams.map fun ms => .ok (datagram ms)) ++ later) out =
        receive deserialize later out'
    | .stop out' => ∃ unread,
        receive deserialize ((datagrams.map fun ms => .ok (datagram ms)) ++ later) out =
          some (.ok out', unread ++ later)
    | .fail e => ∃ unread,
        receive deserialize ((datagrams.map fun ms => .ok (datagram ms)) ++ later) out =
          some (.error e, unread ++ later) := by
  induction datagrams generalizing out with
  | nil => rfl
  | cons ms datagrams ih =>
    obtain ⟨hms, hrest⟩ := hread
    have hscan : scan deserialize (datagram ms) 0 out = outcome ms out := scan_eq hms rfl
    simp only [List.flatten_cons, outcome_append, List.map_cons, List.cons_append, receive, hscan]
    cases hout : outcome ms out with
    | more out' => exact ih (hrest (ends_of_more hout)) out'
    | stop out' => exact ⟨_, rfl⟩
    | fail e => exact ⟨_, rfl⟩

end Outcome

/-! ### When a dump is exact -/

section Exact

variable {deserialize : Deserialize ρ}

/-- No padding is met before the dump ends; and if an error ends it, which says that there are no
    sockets of this kind, there are indeed none behind it. -/
def Settles : List (Padded deserialize) → Prop
  | [] => True
  | m :: ms =>
    match m.payload with
    | .error code _ => code.getD 0 = -enoent ∧ ms.filterMap Padded.response? = []
    | _ => m.padding = 0 ∧ Settles ms

variable {ms ns : List (Padded deserialize)} {out : List ρ} {done : Padded deserialize}

/-- The messages have this outcome exactly if they settle. -/
theorem outcome_eq_stop_iff (hdone : done.payload = .done) (hms : ∀ m ∈ ms, m.payload ≠ .done) :
    outcome (ms ++ [done]) out = .stop (out ++ ms.filterMap Padded.response?) ↔ Settles ms := by
  induction ms generalizing out with
  | nil => simp [outcome, hdone, Settles]
  | cons m ms ih =>
    have hrest : ∀ n ∈ ms, n.payload ≠ .done := fun n hn => hms n (List.mem_cons_of_mem _ hn)
    rw [List.cons_append, outcome, Settles]
    cases hpayload : m.payload with
    | done => exact absurd hpayload (hms m List.mem_cons_self)
    -- An error that says there is nothing ends the dump like `done`.
    | error code text =>
      have hnone : m.response? = none := by simp [Padded.response?, hpayload]
      rw [List.filterMap_cons_none hnone]
      dsimp only
      split
      · rename_i hcode
        simp [hcode]
      · rename_i hcode
        simp [hcode]
    -- A message whose padding is not counted loses the place of the next one.
    | inetResponse response =>
      have hsome : m.response? = some response := by simp [Padded.response?, hpayload]
      rw [List.filterMap_cons_some hsome]
      dsimp only
      split
      · rename_i hpad
        have hsplit : out ++ response :: ms.filterMap Padded.response? =
            out ++ [response] ++ ms.filterMap Padded.response? := List.append_cons _ _ _
        rw [hsplit, ih hrest]
        simp [hpad]
      · rename_i hpad
        simp [hpad]
    | other =>
      have hnone : m.response? = none := by simp [Padded.response?, hpayload]
      rw [List.filterMap_cons_none hnone]
      dsimp only
      split
      · rename_i hpad
        rw [ih hrest]
        simp [hpad]
      · rename_i hpad
        simp [hpad]

/-- Messages that settle can be read, with anything readable behind them in their datagram. -/
theorem Settles.readable (h : Settles (ms ++ ns)) {tail : List (Padded deserialize)}
    (htail : Readable tail) : Readable (ms ++ tail) := by
  induction ms with
  | nil => exact htail
  | cons m ms ih =>
    rw [List.cons_append, Settles] at h
    rw [List.cons_append, Readable]
    cases hpayload : m.payload with
    | done => exact .inl (by simp [Padded.ends, hpayload])
    | error code text => exact .inl (by simp [Padded.ends, hpayload])
    | inetResponse response =>
      rw [hpayload] at h
      exact .inr ⟨.inl h.1, ih h.2⟩
    | other =>
      rw [hpayload] at h
      exact .inr ⟨.inl h.1, ih h.2⟩

/-- Messages that do not end the dump leave the end to the others. -/
theorem Settles.behind (h : Settles (ms ++ ns)) (hgoes : ∀ m ∈ ms, m.ends = false) :
    Settles ns := by
  induction ms with
  | nil => exact h
  | cons m ms ih =>
    have hm := hgoes m List.mem_cons_self
    have hrest : ∀ n ∈ ms, n.ends = false := fun n hn => hgoes n (List.mem_cons_of_mem _ hn)
    rw [List.cons_append, Settles] at h
    cases hpayload : m.payload with
    | done => simp [Padded.ends, hpayload] at hm
    | error code text => simp [Padded.ends, hpayload] at hm
    | inetResponse response =>
      rw [hpayload] at h
      exact ih h.2 hrest
    | other =>
      rw [hpayload] at h
      exact ih h.2 hrest

/-- A dump that settles with its closing message can be read to the end. -/
theorem Settles.readableAll (hdone : done.payload = .done)
    {before : List (List (Padded deserialize))} (h : Settles (before.flatten ++ ms)) :
    ReadableAll (before ++ [ms ++ [done]]) := by
  induction before with
  | nil =>
    have hlast : Readable [done] := .inl (by simp [Padded.ends, hdone])
    have hms : Settles (ms ++ []) := by
      rw [List.append_nil]
      exact h
    exact ⟨hms.readable hlast, fun _ => trivial⟩
  | cons first before ih =>
    rw [List.flatten_cons, List.append_assoc] at h
    refine ⟨?_, fun hgoes => ih (h.behind hgoes)⟩
    have hfirst : Readable (first ++ []) := h.readable trivial
    rw [List.append_nil] at hfirst
    exact hfirst

/-- A dump whose padding cannot be mistaken for a message is exact if and only if its reply
    settles. -/
theorem exact_iff_settles {reply : Reply deserialize} (hread : ReadableAll reply.datagrams)
    (later : List Received) : reply.Exact later ↔ Settles reply.messages := by
  have hall : reply.datagrams.flatten = reply.messages ++ [reply.done] := by
    simp [Reply.datagrams, Reply.messages]
  have hreceive := receive_eq hread later []
  rw [hall] at hreceive
  have hsettles : outcome (reply.messages ++ [reply.done]) [] = .stop reply.responses ↔
      Settles reply.messages := outcome_eq_stop_iff reply.done_payload reply.not_done
  rw [← hsettles]
  unfold Reply.Exact dump Reply.received
  dsimp only
  cases hout : outcome (reply.messages ++ [reply.done]) [] with
  | more out =>
    -- The last message ends the dump.
    have hends := ends_of_more hout reply.done (by simp)
    simp [Padded.ends, reply.done_payload] at hends
  | stop out =>
    rw [hout] at hreceive
    obtain ⟨unread, hunread⟩ := hreceive
    rw [hunread]
    constructor
    · rintro ⟨unread', heq⟩
      rw [Option.some.injEq, Prod.mk.injEq, Except.ok.injEq] at heq
      rw [heq.1]
    · intro heq
      cases heq
      exact ⟨unread, rfl⟩
  | fail e =>
    rw [hout] at hreceive
    obtain ⟨unread, hunread⟩ := hreceive
    rw [hunread]
    refine iff_of_false ?_ (by simp)
    rintro ⟨unread', heq⟩
    cases heq

end Exact

/-! ### What a parser accepts -/

/-- The length field of a header. -/
def declaredLength (bytes : List UInt8) : Nat :=
  (bytes.getD 0 0).toNat + 256 * (bytes.getD 1 0).toNat + 65536 * (bytes.getD 2 0).toNat +
    16777216 * (bytes.getD 3 0).toNat

/-- The type field of a header. -/
def messageType (bytes : List UInt8) : Nat :=
  (bytes.getD 4 0).toNat + 256 * (bytes.getD 5 0).toNat

/-- `NLMSG_NOOP`, `NLMSG_ERROR`, `NLMSG_DONE`, `NLMSG_OVERRUN` and `SOCK_DIAG_BY_FAMILY`. -/
def knownTypes : List Nat := [1, 2, 3, 4, 20]

/-- A parser of framed messages of a little-endian target: it accepts a header with a length
    that covers it and is there, and with a type it knows. -/
structure Framed (deserialize : Deserialize ρ) : Prop where
  header_le : ∀ bytes m, deserialize bytes = .ok m → 16 ≤ m.length
  inside : ∀ bytes m, deserialize bytes = .ok m → m.length ≤ bytes.length
  declared : ∀ bytes m, deserialize bytes = .ok m → m.length = declaredLength bytes
  known : ∀ bytes m, deserialize bytes = .ok m → messageType bytes ∈ knownTypes

section Framed

variable {deserialize : Deserialize ρ} {ms : List (Padded deserialize)}

/-- No message is padded by more than three bytes. -/
theorem padding_le (h : PackedDatagram ms) : ∀ m ∈ ms, m.padding ≤ 3 := by
  have hgap : ∀ m : Padded deserialize, m.gap ≤ 3 := fun m => by
    unfold Padded.gap
    omega
  induction ms with
  | nil => simp
  | cons m ms ih =>
    intro n hn
    cases ms with
    | nil =>
      rw [List.mem_singleton.mp hn]
      rcases h with h | h
      · rw [h]
        exact hgap _
      · omega
    | cons m' ms =>
      rcases List.mem_cons.mp hn with rfl | hn
      · rw [h.1]
        exact hgap _
      · exact ih h.2 n hn

/-- The length is in the first four bytes, the lowest first. -/
theorem declaredLength_cons (a b c d : UInt8) (rest : List UInt8) :
    declaredLength (a :: b :: c :: d :: rest) =
      a.toNat + 256 * b.toNat + 65536 * c.toNat + 16777216 * d.toNat := rfl

/-- The type is in the two bytes behind it. -/
theorem messageType_cons (a b c d e f : UInt8) (rest : List UInt8) :
    messageType (a :: b :: c :: d :: e :: f :: rest) = e.toNat + 256 * f.toNat := rfl

/-- In a small datagram nothing that begins with padding is accepted: what stands where the
    length and the type would be is too long, too short or unknown. -/
theorem Framed.refuses (h : Framed deserialize) {padding : Nat} (hpadding : padding ≤ 3)
    (hsmall : (List.replicate padding 0 ++ datagram ms).length < 65536) :
    padding = 0 ∨ ∃ e, deserialize (List.replicate padding 0 ++ datagram ms) = .error e := by
  cases hparse : deserialize (List.replicate padding 0 ++ datagram ms) with
  | error e => exact .inr ⟨e, rfl⟩
  | ok found =>
    left
    have hheader := h.header_le _ _ hparse
    have hinside := h.inside _ _ hparse
    have hdeclared := h.declared _ _ hparse
    have hknown := h.known _ _ hparse
    cases ms with
    | nil =>
      -- Padding alone is shorter than a header.
      rw [List.length_append, List.length_replicate] at hinside
      have hnil : (datagram ([] : List (Padded deserialize))).length = 0 := rfl
      omega
    | cons n ms =>
      have hn := n.parses []
      rw [List.append_nil] at hn
      have hnHeader := n.header_le
      have hnDeclared := h.declared _ _ hn
      have hnKnown := h.known _ _ hn
      dsimp only at hnDeclared
      -- The octets of the header of the message behind the padding.
      obtain ⟨b0, b1, b2, b3, b4, b5, rest, hbytes⟩ : ∃ b0 b1 b2 b3 b4 b5 rest,
          n.bytes = b0 :: b1 :: b2 :: b3 :: b4 :: b5 :: rest := by
        match hb : n.bytes with
        | b0 :: b1 :: b2 :: b3 :: b4 :: b5 :: rest => exact ⟨b0, b1, b2, b3, b4, b5, rest, rfl⟩
        | [] | [_] | [_, _] | [_, _, _] | [_, _, _, _] | [_, _, _, _, _] =>
          rw [hb] at hnHeader
          simp at hnHeader
      rw [datagram_cons, hbytes] at hsmall hinside hdeclared hknown
      rw [hbytes, declaredLength_cons] at hnDeclared
      rw [hbytes, messageType_cons] at hnKnown
      simp only [knownTypes, List.mem_cons, List.not_mem_nil, or_false] at hnKnown
      obtain rfl | rfl | rfl | rfl : padding = 0 ∨ padding = 1 ∨ padding = 2 ∨ padding = 3 := by
        omega
      all_goals
        simp only [List.replicate, List.cons_append, List.nil_append, List.length_cons,
          List.length_append, declaredLength_cons, messageType_cons, knownTypes, List.mem_cons,
          List.not_mem_nil, or_false, UInt8.toNat_zero]
          at hsmall hinside hdeclared hknown hnDeclared
      · rfl
      · omega
      · omega
      · omega

/-- A parser that goes by the declared length reads such a datagram. -/
theorem Framed.readable (h : Framed deserialize) (hpadding : ∀ m ∈ ms, m.padding ≤ 3)
    (hsmall : (datagram ms).length < 65536) : Readable ms := by
  induction ms with
  | nil => trivial
  | cons m ms ih =>
    rw [datagram_cons, List.length_append, List.length_append] at hsmall
    have hgap : (List.replicate m.padding 0 ++ datagram ms).length < 65536 := by
      rw [List.length_append]
      omega
    refine .inr ⟨h.refuses (hpadding m List.mem_cons_self) hgap, ih ?_ (by omega)⟩
    exact fun n hn => hpadding n (List.mem_cons_of_mem _ hn)

/-- And all datagrams of a dump. -/
theorem Framed.readableAll (h : Framed deserialize) {datagrams : List (List (Padded deserialize))}
    (hpacked : ∀ ms ∈ datagrams, PackedDatagram ms)
    (hsmall : ∀ ms ∈ datagrams, (datagram ms).length < 65536) : ReadableAll datagrams := by
  induction datagrams with
  | nil => trivial
  | cons ms datagrams ih =>
    have hms : Readable ms :=
      h.readable (padding_le (hpacked ms List.mem_cons_self)) (hsmall ms List.mem_cons_self)
    refine ⟨hms, fun _ => ih ?_ ?_⟩
    · exact fun ns hns => hpacked ns (List.mem_cons_of_mem _ hns)
    · exact fun ns hns => hsmall ns (List.mem_cons_of_mem _ hns)

/-- The datagrams of a reply are packed as the kernel packs them. -/
theorem Reply.packed {reply : Reply deserialize} : ∀ ms ∈ reply.datagrams, PackedDatagram ms := by
  intro ms hms
  rcases List.mem_append.mp hms with hms | hms
  · exact reply.packed_before ms hms
  · rw [List.mem_singleton.mp hms]
    exact reply.packed_last

/-- **A dump returns its reply**, whatever parses a message, if no message before the end is
    followed by padding; and with a parser of framed messages and datagrams below 64 KiB it does
    so in no other case. -/
theorem dump_exact (deserialize : Deserialize ρ) (reply : Reply deserialize)
    (later : List Received) :
    (Settles reply.messages → reply.Exact later) ∧
    (Framed deserialize → (∀ ms ∈ reply.datagrams, (datagram ms).length < 65536) →
      (reply.Exact later ↔ Settles reply.messages)) := by
  constructor
  · intro h
    exact (exact_iff_settles (h.readableAll reply.done_payload) later).mpr h
  · intro hframed hsmall
    exact exact_iff_settles (hframed.readableAll reply.packed hsmall) later

end Framed

/-! ### A message with a gap behind it -/

/-- A parser of framed messages; a response is what follows its header. -/
def parseFramed (bytes : List UInt8) : Except String (NetlinkMessage (List UInt8)) :=
  let length := declaredLength bytes
  let payload := (bytes.take length).drop 16
  if length < 16 ∨ bytes.length < length then .error "invalid netlink buffer"
  else if messageType bytes = 2 then
    let code := Int.bmod (declaredLength payload) (2 ^ 32)
    .ok ⟨length, .error (if code = 0 then none else some code) ""⟩
  else if messageType bytes = 3 then .ok ⟨length, .done⟩
  else if messageType bytes = 20 then .ok ⟨length, .inetResponse payload⟩
  else if messageType bytes = 1 ∨ messageType bytes = 4 then .ok ⟨length, .other⟩
  else .error "unknown message type"

/-- The parser of the sample goes by the declared length. -/
theorem framed_parseFramed : Framed parseFramed := by
  have hparse : ∀ bytes m, parseFramed bytes = .ok m → 16 ≤ m.length ∧ m.length ≤ bytes.length ∧
      m.length = declaredLength bytes ∧ messageType bytes ∈ knownTypes := by
    intro bytes m h
    unfold parseFramed at h
    dsimp only at h
    split_ifs at h with hlength herror hcode hdone hresponse hother
    all_goals
      cases h
      refine ⟨Nat.le_of_not_lt fun hlt => hlength (.inl hlt),
        Nat.le_of_not_lt fun hlt => hlength (.inr hlt), rfl, ?_⟩
    · simp [knownTypes, herror]
    · simp [knownTypes, herror]
    · simp [knownTypes, hdone]
    · simp [knownTypes, hresponse]
    · rcases hother with htype | htype <;> simp [knownTypes, htype]
  constructor
  · exact fun bytes m h => (hparse bytes m h).1
  · exact fun bytes m h => (hparse bytes m h).2.1
  · exact fun bytes m h => (hparse bytes m h).2.2.1
  · exact fun bytes m h => (hparse bytes m h).2.2.2

/-- An `NLMSG_NOOP` with one octet of data, and so with three of padding. -/
def noop : Padded parseFramed where
  bytes := [17, 0, 0, 0, 1, 0, 2, 0, 0, 0, 0, 0, 0, 0, 0, 0, 7]
  payload := .other
  header_le := by decide
  parses rest := by simp [parseFramed, declaredLength, messageType]
  padding := 3

/-- `NLMSG_DONE`. -/
def doneMessage : Padded parseFramed where
  bytes := [20, 0, 0, 0, 3, 0, 2, 0, 0, 0, 0, 0, 0, 0, 0, 0, 0, 0, 0, 0]
  payload := .done
  header_le := by decide
  parses rest := by simp [parseFramed, declaredLength, messageType]
  padding := 0

/-- Both in one datagram. -/
def noopReply : Reply parseFramed where
  before := []
  last := [noop]
  done := doneMessage
  done_payload := rfl
  not_done m hm := by
    rw [List.mem_singleton.mp hm]
    decide
  packed_before _ h := by cases h
  packed_last := ⟨rfl, .inr rfl⟩

/-- The dump fails on the padding. -/
theorem padding_ends_dump :
    (dump parseFramed (.ok ()) (noopReply.received [])).map Prod.fst = some (.error malformed) ∧
    ¬ noopReply.Exact [] := by
  have hsmall : ∀ ms ∈ noopReply.datagrams, (datagram ms).length < 65536 := by
    intro ms hms
    rw [List.mem_singleton.mp hms]
    decide
  have hread : ReadableAll noopReply.datagrams :=
    framed_parseFramed.readableAll Reply.packed hsmall
  constructor
  · have hfail := receive_eq hread [] []
    have hout : outcome noopReply.datagrams.flatten [] = .fail malformed := rfl
    rw [hout] at hfail
    obtain ⟨unread, hunread⟩ := hfail
    show (receive parseFramed (noopReply.received []) []).map Prod.fst = _
    unfold Reply.received
    rw [hunread]
    rfl
  · intro hexact
    have hsettles : Settles [noop] := (exact_iff_settles hread []).mp hexact
    exact absurd hsettles.1 (by decide)

end Netdiag.Collect
