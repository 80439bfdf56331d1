import Netdiag.Lib.OnesComplement
import Netdiag.Probe.DnsResponse
import Netdiag.Probe.Replies

namespace Netdiag.Probe.Icmp

/-!
# Probes — echo requests

`checksum` and `build_echo` of `daemon/src/probe/icmp.rs`, with every `u32` addition checked.

* `checksum` adds up words in 32 bits and folds the carries at the end, in a loop.
* `words`, `internetChecksum` — the checksum of RFC 1071: the complement of the ones'
  complement sum of the 16-bit words, an odd octet padded with zero.

A packet of at most 65535 octets has at most 32768 words, so their sum stays below 2^31.
-/

open Checked

variable {sum : Nat} {data : List (BitVec 8)}

/-- `ICMPV4_ECHO_REQUEST`. -/
def icmpv4EchoRequest : BitVec 8 := 8

/-- `ICMPV6_ECHO_REQUEST`. -/
def icmpv6EchoRequest : BitVec 8 := 128

/-- `data.as_chunks::<2>()`. -/
def asChunks : List (BitVec 8) → List (BitVec 8 × BitVec 8) × List (BitVec 8)
  | a :: b :: rest => ((a, b) :: (asChunks rest).1, (asChunks rest).2)
  | remainder => ([], remainder)

/-- `u32::from(u16::from_be_bytes([high, low]))`. -/
def wordOf (high low : BitVec 8) : Nat := (ofBytes 16 [high, low]).toNat

/-- The shift and mask of the source fold a sum. -/
theorem fold_eq_and_add (sum : Nat) :
    OnesComplement.fold 16 sum = (sum &&& 0xffff) + sum >>> 16 := by
  rw [OnesComplement.fold, Nat.shiftRight_eq_div_pow, ← Nat.and_two_pow_sub_one_eq_mod]

/-- What is left to fold is smaller. -/
theorem fold_lt_of_carry (h : sum >>> 16 ≠ 0) : (sum &&& 0xffff) + sum >>> 16 < sum := by
  rw [← fold_eq_and_add]
  apply OnesComplement.fold_lt (by decide)
  by_contra hlt
  rw [Nat.shiftRight_eq_div_pow, Nat.div_eq_of_lt (by omega)] at h
  exact h rfl

/-- `while sum >> 16 != 0`; the addition is checked before its value is gone on with. -/
def foldCarries (sum : Nat) : Run Empty Nat :=
  if _h : sum >>> 16 ≠ 0 then do
    let _ ← add 32 (sum &&& 0xffff) (sum >>> 16)
    foldCarries ((sum &&& 0xffff) + sum >>> 16)
  else return sum
termination_by sum
decreasing_by exact fold_lt_of_carry (by assumption)

/-- An odd-length buffer is padded with a zero byte, per RFC 1071. -/
def addRemainder (sum : Nat) (remainder : List (BitVec 8)) : Run Empty Nat :=
  match remainder.head? with
  | some last => add 32 sum (wordOf last 0)
  | none => .ok sum

/-- `checksum`. -/
def checksum (data : List (BitVec 8)) : Run Empty (BitVec 16) := do
  let (pairs, remainder) := asChunks data
  let sum ← pairs.foldlM (fun sum pair => add 32 sum (wordOf pair.1 pair.2)) 0
  let sum ← addRemainder sum remainder
  let sum ← foldCarries sum
  return ~~~ BitVec.ofNat 16 sum

/-- The packet before the checksum is filled in. -/
def echoPacket (v6 : Bool) (id sequence : BitVec 16) (payload : List (BitVec 8)) :
    List (BitVec 8) :=
  [if v6 then icmpv6EchoRequest else icmpv4EchoRequest, 0, 0, 0] ++ Dns.field16 id ++
    Dns.field16 sequence ++ payload

/-- `build_echo`. -/
def buildEcho (v6 : Bool) (id sequence : BitVec 16) (payload : List (BitVec 8))
    (fillChecksum : Bool) : Run Empty (List (BitVec 8)) := do
  let packet := echoPacket v6 id sequence payload
  -- The kernel fills in that of ICMPv6, and that of a ping socket.
  if fillChecksum && !v6 then
    let sum ← checksum packet
    let hole ← slice packet 2 4
    let filled ← copyFromSlice hole.length (Dns.field16 sum)
    return packet.take 2 ++ filled ++ packet.drop 4
  else return packet

/-! ### The checksum of RFC 1071 -/

/-- The 16-bit words of a buffer, the last one padded with a zero octet if need be. -/
def words : List (BitVec 8) → List Nat
  | a :: b :: rest => wordOf a b :: words rest
  | [last] => [wordOf last 0]
  | [] => []

/-- The complement of the ones' complement sum of the words. -/
def internetChecksum (data : List (BitVec 8)) : BitVec 16 :=
  ~~~ BitVec.ofNat 16 (OnesComplement.sum 16 (words data))

/-- Two octets make a word of sixteen bits. -/
theorem wordOf_lt (high low : BitVec 8) : wordOf high low < 2 ^ 16 := BitVec.isLt _

/-- So do those of a packet. -/
theorem words_lt (data : List (BitVec 8)) : ∀ x ∈ words data, x < 2 ^ 16 := by
  fun_induction words data with
  | case1 a b rest ih =>
    intro x hx
    rcases List.mem_cons.mp hx with rfl | hx
    · exact wordOf_lt a b
    · exact ih x hx
  | case2 last =>
    intro x hx
    rw [List.mem_singleton.mp hx]
    exact wordOf_lt last 0
  | case3 => simp

/-- At most half the octets, rounded up, times the largest word. -/
theorem sum_words_le (data : List (BitVec 8)) :
    (words data).sum ≤ (data.length + 1) / 2 * 65535 := by
  fun_induction words data with
  | case1 a b rest ih =>
    have := wordOf_lt a b
    simp only [List.sum_cons, List.length_cons]
    omega
  | case2 last =>
    have := wordOf_lt last 0
    simp only [List.sum_singleton, List.length_singleton]
    omega
  | case3 => simp

/-- The checksum is the complement of the normalised sum. -/
theorem internetChecksum_eq (data : List (BitVec 8)) :
    internetChecksum data = ~~~ BitVec.ofNat 16 (OnesComplement.norm 16 (words data).sum) := by
  rw [internetChecksum, OnesComplement.sum_eq_norm (words_lt data)]

/-! ### The checksum of the code -/

/-- The loop ends, with the word of what it began with. -/
theorem foldCarries_eq (h : sum < 2 ^ 32) :
    foldCarries sum = .ok (OnesComplement.norm 16 sum) := by
  induction sum using Nat.strongRecOn with
  | ind sum ih =>
    rw [foldCarries]
    split
    · rename_i hcarry
      have hlt : (sum &&& 0xffff) + sum >>> 16 < sum := fold_lt_of_carry hcarry
      rw [add_eq (by omega), ok_bind, ih _ hlt (by omega), ← fold_eq_and_add,
        OnesComplement.norm_fold]
    · rename_i hword
      have hlt : sum < 2 ^ 16 := by
        rw [not_not, Nat.shiftRight_eq_div_pow, Nat.div_eq_zero_iff] at hword
        omega
      rw [OnesComplement.norm_of_lt hlt]
      rfl

/-- The words of a buffer are its pairs and what is left over. -/
theorem sum_words (data : List (BitVec 8)) :
    (words data).sum = ((asChunks data).1.map fun pair => wordOf pair.1 pair.2).sum +
      ((asChunks data).2.head?.map fun last => wordOf last 0).getD 0 := by
  fun_induction words data with
  | case1 a b rest ih =>
    rw [asChunks, List.sum_cons, ih, List.map_cons, List.sum_cons, Nat.add_assoc]
  | case2 last => simp [asChunks]
  | case3 => rfl

/-- The loop computes it for every packet that IP can carry. -/
theorem checksum_eq (h : data.length ≤ 65535) : checksum data = .ok (internetChecksum data) := by
  have hle := sum_words_le data
  have hsum := sum_words data
  -- The sum of the words stays below the top of the accumulator.
  have hhalf : (data.length + 1) / 2 * 65535 ≤ 32768 * 65535 :=
    Nat.mul_le_mul_right _ (by omega)
  have hrest : addRemainder ((asChunks data).1.map fun pair => wordOf pair.1 pair.2).sum
      (asChunks data).2 = .ok (words data).sum := by
    rw [hsum, addRemainder]
    split
    · rename_i last hlast
      rw [hlast, Option.map_some, Option.getD_some] at hsum ⊢
      exact add_eq (by omega)
    · rename_i hnone
      rw [hnone]
      rfl
  show (do
    let sum ← (asChunks data).1.foldlM (fun sum pair => add 32 sum (wordOf pair.1 pair.2)) 0
    let sum ← addRemainder sum (asChunks data).2
    let sum ← foldCarries sum
    return ~~~ BitVec.ofNat 16 sum) = Except.ok (internetChecksum data)
  have hpairs : (asChunks data).1.foldlM
      (fun sum pair => (add 32 sum (wordOf pair.1 pair.2) : Run Empty Nat)) 0 =
        .ok (0 + ((asChunks data).1.map fun pair => wordOf pair.1 pair.2).sum) :=
    foldlM_add_eq (fun pair : BitVec 8 × BitVec 8 => wordOf pair.1 pair.2) (by omega)
  rw [hpairs, ok_bind, Nat.zero_add, hrest, ok_bind, foldCarries_eq (by omega), ok_bind,
    internetChecksum_eq]
  rfl

/-! ### The request -/

/-- The two octets of the checksum add themselves to the sum of the packet. -/
theorem words_echoPacket (v6 : Bool) (id sequence : BitVec 16) (payload : List (BitVec 8))
    (a b : BitVec 8) :
    (words ((echoPacket v6 id sequence payload).take 2 ++ [a, b] ++
      (echoPacket v6 id sequence payload).drop 4)).sum =
      (words (echoPacket v6 id sequence payload)).sum + wordOf a b := by
  simp only [echoPacket, Dns.field16, List.cons_append, List.nil_append, List.take_succ_cons,
    List.take_zero, List.drop_succ_cons, List.drop_zero, words, List.sum_cons]
  have hzero : wordOf 0 0 = 0 := by decide
  omega

/-- The header of an echo has eight octets. -/
theorem length_echoPacket (v6 : Bool) (id sequence : BitVec 16) (payload : List (BitVec 8)) :
    (echoPacket v6 id sequence payload).length = 8 + payload.length := by
  simp [echoPacket, Dns.field16]
  omega

/-- A field of two octets adds its value. -/
theorem wordOf_field16 (x : BitVec 16) :
    ∃ a b, Dns.field16 x = [a, b] ∧ wordOf a b = x.toNat := by
  refine ⟨_, _, rfl, ?_⟩
  exact congrArg BitVec.toNat (Dns.ofBytes_field16 x)

/-- A request whose checksum is filled in. -/
theorem buildEcho_eq (id sequence : BitVec 16) (payload : List (BitVec 8))
    (h : 8 + payload.length ≤ 65535) :
    buildEcho false id sequence payload true =
      .ok ((echoPacket false id sequence payload).take 2 ++
        Dns.field16 (internetChecksum (echoPacket false id sequence payload)) ++
        (echoPacket false id sequence payload).drop 4) := by
  have hlen := length_echoPacket false id sequence payload
  have hhole : (((echoPacket false id sequence payload).take 4).drop 2).length = 2 := by
    rw [List.length_drop, List.length_take]
    omega
  rw [buildEcho]
  simp only [Bool.not_false, Bool.and_self, if_true]
  rw [checksum_eq (by omega), ok_bind, slice_eq (by omega) (by omega), ok_bind, hhole,
    copyFromSlice_eq (by rfl), ok_bind]
  rfl

/-- With the checksum in place the words add up to all ones. -/
theorem internetChecksum_filled {packet filled : List (BitVec 8)} {x : BitVec 16}
    (hx : x = internetChecksum packet)
    (hsum : (words filled).sum = (words packet).sum + x.toNat) :
    internetChecksum filled = 0 := by
  have hlt : OnesComplement.norm 16 (words packet).sum < 2 ^ 16 :=
    OnesComplement.norm_lt (by decide)
  have hcomp : x.toNat = 2 ^ 16 - 1 - OnesComplement.norm 16 (words packet).sum := by
    rw [hx, internetChecksum_eq, BitVec.toNat_not, BitVec.toNat_ofNat, Nat.mod_eq_of_lt hlt]
  rw [internetChecksum_eq, hsum, hcomp, OnesComplement.norm_add_complement (by decide)]
  decide

/-- **The Internet checksum.**  For every packet that fits a datagram the code computes the
    checksum of RFC 1071, with no overflow on the way, and a request it has filled in sums to
    zero. -/
theorem checksum_buildEcho :
    (∀ id sequence payload, 8 + payload.length ≤ 65535 →
      ∃ packet, buildEcho false id sequence payload true = .ok packet ∧
        packet.length = 8 + payload.length ∧ checksum packet = .ok 0) ∧
    (∀ data : List (BitVec 8), data.length ≤ 65535 →
      checksum data = .ok (internetChecksum data)) ∧
    ∀ sum < 2 ^ 32, ∃ folded < 2 ^ 16, foldCarries sum = .ok folded := by
  refine ⟨fun id sequence payload h => ?_, fun data h => checksum_eq h, fun sum h => ?_⟩
  -- The two octets at the checksum's place, and the rest of the packet.
  · have hlen := length_echoPacket false id sequence payload
    obtain ⟨a, b, hab, hword⟩ :=
      wordOf_field16 (internetChecksum (echoPacket false id sequence payload))
    have hbuilt := buildEcho_eq id sequence payload h
    rw [hab] at hbuilt
    have hlength : ((echoPacket false id sequence payload).take 2 ++ [a, b] ++
        (echoPacket false id sequence payload).drop 4).length = 8 + payload.length := by
      simp only [List.length_append, List.length_take, List.length_drop, List.length_cons,
        List.length_nil, hlen]
      omega
    refine ⟨_, hbuilt, hlength, ?_⟩
    have hsum := words_echoPacket false id sequence payload a b
    rw [hword] at hsum
    rw [checksum_eq (by omega), internetChecksum_filled rfl hsum]
  · exact ⟨_, OnesComplement.norm_lt (by decide), foldCarries_eq h⟩

/-- A request of eleven octets. -/
theorem checksum_buildEcho_odd :
    ∃ packet, buildEcho false 0x1234 1 [0x61, 0x62, 0x63] true = .ok packet ∧
      packet.length = 11 ∧ checksum packet = .ok 0 :=
  checksum_buildEcho.1 0x1234 1 [0x61, 0x62, 0x63] (by decide)

end Netdiag.Probe.Icmp
