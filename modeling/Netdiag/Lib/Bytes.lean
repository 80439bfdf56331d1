import Mathlib.Algebra.BigOperators.Ring.List
import Mathlib.Data.List.Infix
import Mathlib.Data.Nat.Bitwise
import Mathlib.Tactic.Common

namespace Bytes

/-!
# Byte streams and base-128 integers

An `AsyncRead` seen from its caller: the bytes arrive in chunks of any size, and a read
returns what is there, up to the length of the buffer.

* `Reader.read`, `Reader.readExact` — one read, and the loop that fills a buffer.
* `leb128` — the canonical little-endian base-128 form of a number.
* `IsVarint`, `varintValue` — base-128 forms in general, canonical or not, and what number
  the bytes stand for.

What a reader returns depends on the bytes only, never on the chunks: `read_bytes`,
`readExact_of_append` and `readExact_of_short` speak of `Reader.bytes`.
-/

/-! ### Readers -/

/-- What a failing read reports. -/
inductive ErrorKind where
  | unexpectedEof
  | other
  deriving DecidableEq, Repr

/-- A stream: the chunks still to arrive, and what it reports when there are no more of
    them (end of file, or an error).  An empty chunk is a poll that finds nothing yet. -/
structure Reader where
  chunks : List (List UInt8)
  fault : Option ErrorKind := none
  deriving DecidableEq, Repr

namespace Reader

variable {r r' : Reader} {n : Nat} {a b bs : List UInt8}

/-- The bytes still to arrive. -/
def bytes (r : Reader) : List UInt8 := r.chunks.flatten

/-- One read into a buffer of `n` bytes, from these chunks. -/
def readChunks (n : Nat) : List (List UInt8) → Option (List UInt8 × List (List UInt8))
  | [] => none
  | [] :: rest => readChunks n rest
  | (b :: c) :: rest => some ((b :: c).take n, (b :: c).drop n :: rest)

/-- `read` into a buffer of `n` bytes; no bytes mean the end of the stream. -/
def read (n : Nat) (r : Reader) : Except ErrorKind (List UInt8 × Reader) :=
  match readChunks n r.chunks with
  | some (bs, rest) => .ok (bs, { r with chunks := rest })
  | none =>
    match r.fault with
    | some e => .error e
    | none => .ok ([], { r with chunks := [] })

/-- What is read is the beginning of the stream; it is not empty. -/
theorem readChunks_some {n : Nat} (hn : 0 < n) {cs rest : List (List UInt8)}
    (h : readChunks n cs = some (bs, rest)) :
    bs ++ rest.flatten = cs.flatten ∧ bs.length ≤ n ∧ bs ≠ [] := by
  induction cs with
  | nil => simp [readChunks] at h
  | cons c cs ih =>
    cases c with
    | nil => simpa [readChunks] using ih (by simpa [readChunks] using h)
    | cons b c =>
      simp only [readChunks, Option.some.injEq, Prod.mk.injEq] at h
      obtain ⟨rfl, rfl⟩ := h
      refine ⟨?_, ?_, ?_⟩
      · simp only [List.flatten_cons, ← List.append_assoc, List.take_append_drop]
      · exact List.length_take_le _ _
      · intro h0
        rw [List.take_eq_nil_iff] at h0
        rcases h0 with h0 | h0
        · omega
        · exact absurd h0 (by simp)

/-- Nothing is read only at the end of the stream. -/
theorem readChunks_none {n : Nat} {cs : List (List UInt8)} :
    readChunks n cs = none ↔ cs.flatten = [] := by
  induction cs with
  | nil => simp [readChunks]
  | cons c cs ih =>
    cases c with
    | nil => simpa [readChunks] using ih
    | cons b c => simp [readChunks]

/-- A read returns some of the next bytes, in order, and leaves the others. -/
theorem read_bytes (hn : 0 < n) (h : r.read n = .ok (bs, r')) :
    bs ++ r'.bytes = r.bytes ∧ bs.length ≤ n ∧ r'.fault = r.fault := by
  unfold read at h
  split at h
  · rename_i got rest hc
    simp only [Except.ok.injEq, Prod.mk.injEq] at h
    obtain ⟨rfl, rfl⟩ := h
    have hs := readChunks_some hn hc
    exact ⟨hs.1, hs.2.1, rfl⟩
  · rename_i hc
    have he : r.bytes = [] := readChunks_none.mp hc
    split at h
    · simp at h
    · simp only [Except.ok.injEq, Prod.mk.injEq] at h
      obtain ⟨rfl, rfl⟩ := h
      exact ⟨by rw [he]; rfl, by simp, rfl⟩

/-- While there are bytes, a read returns some. -/
theorem read_of_bytes (hn : 0 < n) (h : r.bytes ≠ []) :
    ∃ bs r', r.read n = .ok (bs, r') ∧ bs ≠ [] := by
  cases hc : readChunks n r.chunks with
  | none => exact absurd (readChunks_none.mp hc) h
  | some p =>
    obtain ⟨bs, rest⟩ := p
    refine ⟨bs, { r with chunks := rest }, by simp [read, hc], ?_⟩
    exact (readChunks_some hn hc).2.2

/-- At the end of the file a read returns nothing. -/
theorem read_of_end (h : r.bytes = []) (hf : r.fault = none) :
    r.read n = .ok ([], { r with chunks := [] }) := by
  have hc : readChunks n r.chunks = none := readChunks_none.mpr h
  simp [read, hc, hf]

/-- A read into a buffer of one byte takes exactly the next one. -/
theorem read_one {x : UInt8} (h : r.bytes = x :: b) :
    ∃ r', r.read 1 = .ok ([x], r') ∧ r'.bytes = b ∧ r'.fault = r.fault := by
  obtain ⟨bs, r', hr, hne⟩ := read_of_bytes (r := r) (n := 1) (by omega) (by simp [h])
  obtain ⟨hb, hl, hf⟩ := read_bytes (by omega) hr
  obtain ⟨y, rfl⟩ : ∃ y, bs = [y] := by
    have hpos : 0 < bs.length := List.length_pos_iff.mpr hne
    exact List.length_eq_one_iff.mp (by omega)
  rw [h] at hb
  simp only [List.singleton_append, List.cons.injEq] at hb
  obtain ⟨rfl, rfl⟩ := hb
  exact ⟨r', hr, rfl, hf⟩

/-- `read_exact` into a buffer of `n` bytes: reads until it is full. -/
def readExact (n : Nat) (r : Reader) : Except ErrorKind (List UInt8 × Reader) :=
  if n = 0 then .ok ([], r)
  else
    match r.read n with
    | .error e => .error e
    | .ok ([], _) => .error .unexpectedEof
    | .ok (x :: bs, r') =>
      match readExact (n - (x :: bs).length) r' with
      | .error e => .error e
      | .ok (cs, r'') => .ok (x :: bs ++ cs, r'')
termination_by n
decreasing_by simp; omega

/-- With enough bytes `read_exact` returns the first `n` of them. -/
theorem readExact_of_append (h : r.bytes = a ++ b) :
    ∃ r', r.readExact a.length = .ok (a, r') ∧ r'.bytes = b ∧ r'.fault = r.fault := by
  induction hk : a.length using Nat.strongRecOn generalizing a r with
  | ind k ih =>
    rw [readExact]
    by_cases h0 : k = 0
    · rw [if_pos h0]
      have ha : a = [] := List.length_eq_zero_iff.mp (by omega)
      subst ha
      exact ⟨r, rfl, h, rfl⟩
    · rw [if_neg h0]
      have hne : r.bytes ≠ [] := by
        rw [h]
        intro he
        have := List.append_eq_nil_iff.mp he
        rw [this.1] at hk
        simp at hk
        omega
      obtain ⟨bs, r₁, hr, hbs⟩ := read_of_bytes (n := k) (by omega) hne
      obtain ⟨hb, hl, hf⟩ := read_bytes (by omega) hr
      -- What was read is the beginning of `a`; the rest of `a` is still to come.
      rw [h] at hb
      obtain ⟨a', rfl⟩ : ∃ a', a = bs ++ a' :=
        List.prefix_of_prefix_length_le ⟨r₁.bytes, hb⟩ ⟨b, rfl⟩ (by omega)
          |>.imp fun _ he => he.symm
      have hb' : r₁.bytes = a' ++ b := by
        rw [List.append_assoc] at hb
        exact List.append_cancel_left hb
      have hpos : 0 < bs.length := List.length_pos_iff.mpr hbs
      have hlen : a'.length = k - bs.length := by
        rw [List.length_append] at hk
        omega
      obtain ⟨r', hr', hb'', hf'⟩ := ih (k - bs.length) (by omega) hb' hlen
      refine ⟨r', ?_, hb'', hf'.trans hf⟩
      rw [hr]
      cases bs with
      | nil => exact absurd rfl hbs
      | cons x bs => simp only [hr']

/-- With fewer bytes than the buffer has room for, `read_exact` fails. -/
theorem readExact_of_short (h : r.bytes.length < n) : ∃ e, r.readExact n = .error e := by
  induction n using Nat.strongRecOn generalizing r with
  | ind n ih =>
    rw [readExact, if_neg (by omega)]
    cases hr : r.read n with
    | error e => exact ⟨e, rfl⟩
    | ok p =>
      obtain ⟨bs, r₁⟩ := p
      cases bs with
      | nil => exact ⟨_, rfl⟩
      | cons x bs =>
        obtain ⟨hb, hl, -⟩ := read_bytes (by omega) hr
        have hlen := congrArg List.length hb
        simp only [List.length_append, List.length_cons] at hlen hl
        obtain ⟨e, he⟩ := ih (n - (x :: bs).length) (by simp; omega) (r := r₁)
          (by simp only [List.length_cons]; omega)
        exact ⟨e, by simp only [he]⟩

/-- `read_exact` takes its bytes off the front. -/
theorem readExact_bytes (h : r.readExact n = .ok (bs, r')) : bs ++ r'.bytes = r.bytes := by
  by_cases hn : r.bytes.length < n
  · obtain ⟨e, he⟩ := readExact_of_short hn
    rw [h] at he
    simp at he
  · have hsplit : r.bytes = r.bytes.take n ++ r.bytes.drop n := (List.take_append_drop _ _).symm
    obtain ⟨r₁, hr, hb, -⟩ := readExact_of_append hsplit
    rw [List.length_take, Nat.min_eq_left (by omega), h] at hr
    simp only [Except.ok.injEq, Prod.mk.injEq] at hr
    obtain ⟨rfl, rfl⟩ := hr
    rw [hb, List.take_append_drop]

end Reader

/-! ### Base-128 integers -/

/-- The canonical base-128 form: seven bits a byte, the lowest first, the high bit set on
    every byte but the last. -/
def leb128 (n : Nat) : List UInt8 :=
  if n < 128 then [UInt8.ofNat n] else UInt8.ofNat (n % 128 + 128) :: leb128 (n / 128)
termination_by n
decreasing_by omega

/-- A number of seven bits is one byte. -/
theorem leb128_of_lt {n : Nat} (h : n < 128) : leb128 n = [UInt8.ofNat n] := by
  rw [leb128, if_pos h]

/-- The low seven bits of a longer number come first, marked as not the last. -/
theorem leb128_of_ge {n : Nat} (h : 128 ≤ n) :
    leb128 n = UInt8.ofNat (n % 128 + 128) :: leb128 (n / 128) := by
  rw [leb128, if_neg (by omega)]

/-- Every number has a byte. -/
theorem leb128_ne_nil (n : Nat) : leb128 n ≠ [] := by
  rw [leb128]
  split <;> simp

/-- The seven payload bits of a byte. -/
theorem toNat_and_low (b : UInt8) : (b &&& 0x7f).toNat = b.toNat % 128 := by
  rw [UInt8.toNat_and]
  exact Nat.and_two_pow_sub_one_eq_mod b.toNat 7

/-- The high bit of a byte. -/
theorem and_high_eq_zero (b : UInt8) : b &&& 0x80 = 0 ↔ b.toNat < 128 := by
  have key : ∀ i : Fin 256, (i.val &&& 128) = i.val / 128 * 128 := by decide +kernel
  have hb : (b &&& 0x80).toNat = b.toNat / 128 * 128 := by
    rw [UInt8.toNat_and]
    exact key ⟨b.toNat, b.toNat_lt⟩
  rw [← UInt8.toNat_inj, hb]
  have := b.toNat_lt
  simp only [UInt8.toNat_zero]
  omega

/-- The bytes of one base-128 integer: the high bit on every byte but the last. -/
inductive IsVarint : List UInt8 → Prop
  | last {b : UInt8} (hb : b.toNat < 128) : IsVarint [b]
  | more {b : UInt8} {bs : List UInt8} (hb : 128 ≤ b.toNat) (hbs : IsVarint bs) :
      IsVarint (b :: bs)

/-- The number that base-128 bytes stand for, the first byte lowest. -/
def varintValue (bs : List UInt8) : Nat :=
  (bs.mapIdx fun i b => b.toNat % 128 * 2 ^ (7 * i)).sum

/-- No bytes, no value. -/
@[simp] theorem varintValue_nil : varintValue [] = 0 := rfl

/-- The first byte has the lowest seven bits. -/
theorem varintValue_cons (b : UInt8) (bs : List UInt8) :
    varintValue (b :: bs) = b.toNat % 128 + 128 * varintValue bs := by
  have hshift : (fun i (c : UInt8) => c.toNat % 128 * 2 ^ (7 * (i + 1))) =
      fun i c => 128 * (c.toNat % 128 * 2 ^ (7 * i)) := by
    funext i c
    rw [Nat.mul_add, Nat.pow_add, ← Nat.mul_assoc, Nat.mul_comm]
  unfold varintValue
  rw [List.mapIdx_cons, List.sum_cons, hshift, List.mapIdx_eq_zipIdx_map,
    List.mapIdx_eq_zipIdx_map, List.sum_map_mul_left]
  simp

/-- Later bytes weigh as much more as there are bytes before them. -/
theorem varintValue_append (as bs : List UInt8) :
    varintValue (as ++ bs) = varintValue as + 128 ^ as.length * varintValue bs := by
  induction as with
  | nil => simp
  | cons a as ih =>
    rw [List.cons_append, varintValue_cons, varintValue_cons, ih, List.length_cons, Nat.pow_succ,
      Nat.mul_add, Nat.mul_comm _ 128, Nat.mul_assoc, Nat.add_assoc]

/-- Each byte brings seven bits. -/
theorem varintValue_lt (bs : List UInt8) : varintValue bs < 128 ^ bs.length := by
  induction bs with
  | nil => simp
  | cons b bs ih =>
    rw [varintValue_cons, List.length_cons, Nat.pow_succ]
    omega

/-- An integer ends at its first byte without the high bit. -/
theorem IsVarint.exists_last {bs : List UInt8} (h : IsVarint bs) :
    ∃ init b, bs = init ++ [b] ∧ (∀ x ∈ init, 128 ≤ x.toNat) ∧ b.toNat < 128 := by
  induction h with
  | last hb => exact ⟨[], _, rfl, by simp, hb⟩
  | more hb _ ih =>
    obtain ⟨init, c, rfl, hinit, hc⟩ := ih
    refine ⟨_ :: init, c, rfl, ?_, hc⟩
    intro x hx
    rcases List.mem_cons.mp hx with rfl | hx
    · exact hb
    · exact hinit x hx

/-- Bytes that go on, and one that does not. -/
theorem isVarint_append {init : List UInt8} {b : UInt8} (hinit : ∀ x ∈ init, 128 ≤ x.toNat)
    (hb : b.toNat < 128) : IsVarint (init ++ [b]) := by
  induction init with
  | nil => exact .last hb
  | cons a init ih =>
    apply IsVarint.more (hinit a List.mem_cons_self)
    exact ih fun x hx => hinit x (List.mem_cons_of_mem a hx)

/-- `leb128` writes one integer. -/
theorem isVarint_leb128 (n : Nat) : IsVarint (leb128 n) := by
  induction n using Nat.strongRecOn with
  | ind n ih =>
    by_cases h : n < 128
    · rw [leb128_of_lt h]
      apply IsVarint.last
      rw [UInt8.toNat_ofNat']
      omega
    · rw [leb128_of_ge (by omega)]
      apply IsVarint.more _ (ih (n / 128) (by omega))
      rw [UInt8.toNat_ofNat']
      omega

/-- A number is read back. -/
@[simp] theorem varintValue_leb128 (n : Nat) : varintValue (leb128 n) = n := by
  induction n using Nat.strongRecOn with
  | ind n ih =>
    by_cases h : n < 128
    · rw [leb128_of_lt h, varintValue_cons, varintValue_nil, UInt8.toNat_ofNat']
      omega
    · rw [leb128_of_ge (by omega), varintValue_cons, ih (n / 128) (by omega),
        UInt8.toNat_ofNat']
      omega

/-- A number has no more bytes than its bits need. -/
theorem length_leb128_le {n k : Nat} (hn : n < 128 ^ (k + 1)) :
    (leb128 n).length ≤ k + 1 := by
  induction k generalizing n with
  | zero =>
    rw [leb128_of_lt (by omega)]
    rfl
  | succ k ih =>
    by_cases h : n < 128
    · rw [leb128_of_lt h]
      simp
    · rw [Nat.pow_succ] at hn
      have := ih (n := n / 128) (by omega)
      rw [leb128_of_ge (by omega), List.length_cons]
      omega

/-- A cut base-128 form has the high bit set on all its bytes. -/
theorem leb128_cut {n : Nat} {p : List UInt8} (hp : p <+: leb128 n) (hne : p ≠ leb128 n) :
    ∀ b ∈ p, 128 ≤ b.toNat := by
  induction n using Nat.strongRecOn generalizing p with
  | ind n ih =>
    cases p with
    | nil => simp
    | cons x p =>
      by_cases h : n < 128
      · rw [leb128_of_lt h] at hp hne
        rw [List.cons_prefix_cons] at hp
        obtain ⟨rfl, hp⟩ := hp
        rw [List.prefix_nil] at hp
        exact absurd (by rw [hp]) hne
      · rw [leb128_of_ge (by omega)] at hp hne
        rw [List.cons_prefix_cons] at hp
        obtain ⟨rfl, hp⟩ := hp
        have hrest := ih (n / 128) (by omega) hp (by rintro rfl; exact hne rfl)
        intro b hb
        rcases List.mem_cons.mp hb with rfl | hb
        · rw [UInt8.toNat_ofNat']
          omega
        · exact hrest b hb

end Bytes
