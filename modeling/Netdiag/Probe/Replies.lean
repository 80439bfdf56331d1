import Netdiag.Lib.Checked
import Netdiag.Probe.DnsWire

namespace Netdiag.Probe

/-!
# Probes — replies of ICMP and TLS

`matches_reply` of `daemon/src/probe/icmp.rs` and `classify_reply` of `daemon/src/probe/tls.rs`,
with their indexes, slices and additions checked.

* `Icmp.matchesReply_returns`, `Tls.classifyReply_returns` — both return on every buffer.
-/

open Checked

namespace Icmp

/-- `ICMPV4_ECHO_REPLY`. -/
def icmpv4EchoReply : BitVec 8 := 0

/-- `ICMPV6_ECHO_REPLY`. -/
def icmpv6EchoReply : BitVec 8 := 129

/-- `SocketKind`. -/
inductive SocketKind
  | datagram
  | raw
  deriving DecidableEq, Repr

/-- The ICMP header in the received buffer; `none` where the function answers `false`. -/
def icmpHeader (w : Nat) (buf : List (BitVec 8)) (v6 : Bool) (kind : SocketKind) :
    Run Empty (Option (List (BitVec 8))) :=
  if !v6 && kind == .raw then
    -- Skip the IPv4 header, whose length lives in the low nibble of byte 0 in 32-bit words.
    if buf.isEmpty then return none
    else do
      let first ← index buf 0
      let ihl ← mul w (first &&& 0x0f).toNat 4
      let needed ← add w ihl 8
      if buf.length < needed then return none
      else return some (← sliceFrom buf ihl)
  else return some buf

/-- `matches_reply`. -/
def matchesReply (w : Nat) (buf : List (BitVec 8)) (v6 : Bool) (kind : SocketKind)
    (sequence : BitVec 16) : Run Empty Bool := do
  match ← icmpHeader w buf v6 kind with
  | none => return false
  | some icmp =>
    if icmp.length < 8 then return false
    else
      let expectedType := if v6 then icmpv6EchoReply else icmpv4EchoReply
      if (← index icmp 0) ≠ expectedType then return false
      -- The identifier, at octets 4 and 5, is not compared.
      else return (← Dns.be16 icmp 6 7) == sequence

/-- A low nibble counts at most fifteen words. -/
theorem nibble_mul_le (b : BitVec 8) : (b &&& 0x0f).toNat * 4 ≤ 60 := by
  have hle : (b &&& 0x0f).toNat ≤ 15 := by
    rw [BitVec.toNat_and]
    exact Nat.and_le_right
  omega

theorem icmpHeader_returns {w : Nat} (hw : 2 ^ 16 ≤ 2 ^ w) (buf : List (BitVec 8)) (v6 : Bool)
    (kind : SocketKind) : Returns (icmpHeader w buf v6 kind) (fun _ => True) := by
  unfold icmpHeader
  split
  · split
    · exact trivial
    rename_i hempty
    have hpos : 0 < buf.length := List.length_pos_iff.mpr (by simpa using hempty)
    have hihl := nibble_mul_le buf[0]
    rw [index_eq hpos, ok_bind, mul_eq (by omega), ok_bind, add_eq (by omega), ok_bind]
    split
    · exact trivial
    · rw [sliceFrom_eq (by omega)]
      exact trivial
  · exact trivial

theorem matchesReply_returns {w : Nat} (hw : 2 ^ 16 ≤ 2 ^ w) (buf : List (BitVec 8)) (v6 : Bool)
    (kind : SocketKind) (sequence : BitVec 16) :
    Returns (matchesReply w buf v6 kind sequence) (fun _ => True) := by
  refine (icmpHeader_returns hw buf v6 kind).bind ?_
  rintro (_ | icmp) -
  · exact trivial
  dsimp only
  split
  · exact trivial
  · rw [index_eq (by omega), ok_bind, Dns.be16_eq (by omega)]
    generalize (if v6 = true then icmpv6EchoReply else icmpv4EchoReply) = expectedType
    split <;> exact trivial

end Icmp

namespace Tls

/-- `HelloReply`. -/
inductive HelloReply
  | serverHello
  | alert (level description : BitVec 8)
  | notTls
  | empty
  deriving DecidableEq, Repr

/-- `classify_reply`.  A guard reads octet 5 only behind its length check. -/
def classifyReply (buf : List (BitVec 8)) : Run Empty HelloReply :=
  if buf.isEmpty then return .empty
  else do
    let first ← index buf 0
    if first = 0x16 then
      -- A handshake record; the type behind its header tells what it is.
      if 6 ≤ buf.length then
        if (← index buf 5) = 0x02 then return .serverHello else return .notTls
      else return .notTls
    else if first = 0x15 ∧ 7 ≤ buf.length then
      return .alert (← index buf 5) (← index buf 6)
    else return .notTls

theorem classifyReply_returns (buf : List (BitVec 8)) :
    Returns (classifyReply buf) (fun _ => True) := by
  unfold classifyReply
  split
  · exact trivial
  rename_i hempty
  have hpos : 0 < buf.length := List.length_pos_iff.mpr (by simpa using hempty)
  rw [index_eq hpos, ok_bind]
  split
  · split
    · rw [index_eq (by omega), ok_bind]
      split <;> exact trivial
    · exact trivial
  · split
    · rename_i halert
      rw [index_eq (by omega), ok_bind, index_eq (by omega), ok_bind]
      exact trivial
    · exact trivial

end Tls

end Netdiag.Probe
