import Netdiag.Ipc.Codec

namespace Netdiag.Ipc

open Bytes

/-!
# IPC — the length in front of a frame

`read_varint` of `netdiag-ipc/src/codec.rs` shifts seven bits a byte into a `u64` and gives up
at the eleventh byte.  The tenth byte is shifted by 63: it has room for one bit of the seven.

* `ExactVarint` — what is read is the number the bytes stand for, and every canonical varint
  is read.
* `LosesBits` — the streams that begin with ten bytes whose number does not fit.

`readVarint_some` and `readVarint_of_isVarint` say between them what `read_varint` does with
the first ten bytes; what is left is when the remainder modulo 2^64 is the number itself.
-/

variable {r : Reader} {bs : List UInt8}

/-- `read_varint` returns the number itself for the bytes it took, and reads the canonical
    varint of every 64-bit number. -/
def ExactVarint (r : Reader) : Prop :=
  (∀ v r', readVarint r = .ok (some v, r') →
    v < 2 ^ 64 ∧ ∃ bs, r.bytes = bs ++ r'.bytes ∧ v = varintValue bs) ∧
  ∀ n rest, n < 2 ^ 64 → r.bytes = leb128 n ++ rest →
    ∃ r', readVarint r = .ok (some n, r') ∧ r'.bytes = rest ∧ r'.fault = r.fault

/-- Nine bytes with the high bit, and a tenth without it but with more than one bit. -/
def LosesBits (bytes : List UInt8) : Prop :=
  ∃ init b rest, bytes = init ++ b :: rest ∧ init.length = 9 ∧
    (∀ x ∈ init, 128 ≤ x.toNat) ∧ 2 ≤ b.toNat ∧ b.toNat < 128

theorem varintValue_concat (init : List UInt8) (b : UInt8) :
    varintValue (init ++ [b]) = varintValue init + 128 ^ init.length * (b.toNat % 128) := by
  rw [varintValue_append, varintValue_cons, varintValue_nil, Nat.mul_zero, Nat.add_zero]

/-- A varint of ten bytes fits in 64 bits when it has one bit in the last byte. -/
theorem varintValue_lt_of_not_losesBits {rest : List UInt8} (hbs : IsVarint bs)
    (hlen : bs.length ≤ 10) (hfit : ¬ LosesBits (bs ++ rest)) : varintValue bs < 2 ^ 64 := by
  obtain ⟨init, b, rfl, hinit, hb⟩ := hbs.exists_last
  rw [List.length_append, List.length_singleton] at hlen
  have hlow : varintValue init < 128 ^ init.length := varintValue_lt init
  rw [varintValue_concat]
  by_cases hten : init.length = 9
  · have hone : b.toNat < 2 := by
      by_contra hge
      exact hfit ⟨init, b, rest, by simp, hten, hinit, by omega, hb⟩
    rw [hten] at hlow ⊢
    omega
  · have hpow : 128 ^ init.length ≤ 128 ^ 8 := Nat.pow_le_pow_right (by omega) (by omega)
    have hmul : 128 ^ init.length * (b.toNat % 128) ≤ 128 ^ init.length * 127 :=
      Nat.mul_le_mul_left _ (by omega)
    omega

/-- A tenth byte with more than one bit: `read_varint` takes the ten bytes for a number that
    they do not stand for. -/
theorem not_exactVarint (h : LosesBits r.bytes) : ¬ ExactVarint r := by
  rintro ⟨hexact, -⟩
  obtain ⟨init, b, rest, hr, hnine, hinit, htwo, hb⟩ := h
  have hbytes : r.bytes = (init ++ [b]) ++ rest := by
    rw [hr, List.append_assoc, List.singleton_append]
  obtain ⟨r', hread, hrest, -⟩ :=
    readVarint_of_isVarint (isVarint_append hinit hb) (by simp; omega) hbytes
  obtain ⟨hlt, bs, hbs, hv⟩ := hexact _ r' hread
  -- The bytes taken are these ten.
  have htaken : bs = init ++ [b] := by
    rw [hbytes, hrest] at hbs
    exact (List.append_cancel_right hbs).symm
  rw [hv, htaken, varintValue_concat, hnine] at hlt
  omega

/-- `read_varint` is exact on a stream unless ten bytes stand there whose number has more
    than 64 bits. -/
theorem exactVarint_iff (r : Reader) : ExactVarint r ↔ ¬ LosesBits r.bytes := by
  constructor
  · intro hexact hlose
    exact not_exactVarint hlose hexact
  · intro hfit
    refine ⟨?_, fun n rest hn hr => readVarint_leb128 hn hr⟩
    intro v r' hread
    obtain ⟨bs, hbs, hlen, hr, hv⟩ := readVarint_some hread
    have hlt : varintValue bs < 2 ^ 64 := varintValue_lt_of_not_losesBits hbs hlen (hr ▸ hfit)
    rw [Nat.mod_eq_of_lt hlt] at hv
    exact ⟨by omega, bs, hr, hv⟩

/-- Ten bytes that stand for 2^64. -/
def twoPow64 : List UInt8 := [0x80, 0x80, 0x80, 0x80, 0x80, 0x80, 0x80, 0x80, 0x80, 0x02]

/-- 2^64 is read as the length 0. -/
theorem readVarint_twoPow64 :
    (∃ r', readVarint ⟨[twoPow64], none⟩ = .ok (some 0, r') ∧ r'.bytes = []) ∧
      varintValue twoPow64 = 2 ^ 64 ∧ ¬ ExactVarint ⟨[twoPow64], none⟩ := by
  have hlast : ∀ x ∈ twoPow64.take 9, 128 ≤ x.toNat := by decide +kernel
  have hvalue : varintValue twoPow64 = 2 ^ 64 := by decide +kernel
  refine ⟨?_, hvalue, not_exactVarint ⟨twoPow64.take 9, 2, [], by decide, rfl, hlast, ?_⟩⟩
  · have hbytes : Reader.bytes ⟨[twoPow64], none⟩ = (twoPow64.take 9 ++ [2]) ++ [] := by decide
    obtain ⟨r', h, hb, -⟩ :=
      readVarint_of_isVarint (isVarint_append (b := 2) hlast (by decide)) (by decide) hbytes
    refine ⟨r', ?_, hb⟩
    have hzero : varintValue (twoPow64.take 9 ++ [2]) % 2 ^ 64 = 0 := by decide +kernel
    rw [h, hzero]
  · decide

end Netdiag.Ipc
