import Netdiag.Lib.Bytes

namespace Netdiag.Ipc

open Bytes

/-!
# IPC — length-delimited frames

`netdiag-ipc/src/codec.rs`: a frame is the byte count of a message as a varint, then the
message.

* `readVarint`, `readFrame`, `writeFrame` — the codec, over any stream.
* `readFrames` — the callers' loop: `read_frame` until it returns no message.
* `readFrames_of_cut` — what is read back from a stream of frames that is cut anywhere.

The reader has to tell the end of the stream between two frames from an end inside one;
`readVarint_cut` and `Reader.readExact_of_short` are its two ways to see the latter.
-/

/-- `prost::Message`. -/
class Message (M : Type) where
  encode : M → List UInt8
  decode : List UInt8 → Option M
  encodeLengthDelimited : M → List UInt8

/-- `MAX_FRAME_BYTES`. -/
def maxFrameBytes : Nat := 32 * 1024 * 1024

/-! ### The codec -/

/-- The loop of `read_varint`, with `value` read so far and `shift` bits of it. -/
def readVarintFrom (value shift : Nat) (reader : Reader) :
    Except String (Option Nat × Reader) :=
  match reader.read 1 with
  | .ok ([], reader) =>
    -- The peer closed between two frames.
    if shift = 0 then .ok (none, reader)
    else .error "EOF in the middle of a frame length varint"
  | .error e =>
    -- As it is when the error says so.
    if e = .unexpectedEof ∧ shift = 0 then .ok (none, reader)
    else .error "read error on frame length"
  | .ok (byte :: _, reader) =>
    -- The tenth byte is shifted by 63: all but its lowest bit is lost.
    let value := value ||| ((byte &&& 0x7f).toNat <<< shift) % 2 ^ 64
    if byte &&& 0x80 = 0 then .ok (some value, reader)
    else if shift + 7 ≥ 64 then .error "frame length varint is too long"
    else readVarintFrom value (shift + 7) reader
termination_by 64 - shift

/-- `read_varint`. -/
def readVarint (reader : Reader) : Except String (Option Nat × Reader) :=
  readVarintFrom 0 0 reader

/-- `read_frame`. -/
def readFrame (M : Type) [Message M] (reader : Reader) : Except String (Option M × Reader) :=
  match readVarint reader with
  | .error e => .error e
  | .ok (none, reader) => .ok (none, reader)
  | .ok (some len, reader) =>
    -- Nothing is allocated for a length that is refused.
    if len > maxFrameBytes then
      .error s!"frame of {len} bytes exceeds the {maxFrameBytes} byte limit"
    else
      match reader.readExact len with
      | .error _ => .error "short read on frame body"
      | .ok (buf, reader) =>
        match Message.decode buf with
        | none => .error "malformed protobuf frame"
        | some msg => .ok (some msg, reader)

/-- `write_frame` to a stream that has taken `written` so far. -/
def writeFrame {M : Type} [Message M] (written : List UInt8) (msg : M) : List UInt8 :=
  written ++ Message.encodeLengthDelimited msg

/-! ### Varints -/

variable {M : Type} [Message M] {r r' : Reader} {value shift n : Nat} {rest : List UInt8}

/-- The seven bits of one more byte above the `shift` bits read so far; what does not fit in
    64 bits is lost. -/
theorem lor_payload (hv : value < 2 ^ shift) (hs : shift ≤ 64) :
    value ||| (n <<< shift) % 2 ^ 64 = (value + 2 ^ shift * n) % 2 ^ 64 := by
  have hle : 2 ^ shift ≤ 2 ^ 64 := Nat.pow_le_pow_right (by omega) hs
  have hsum : value ||| n <<< shift = value + 2 ^ shift * n := by
    rw [Nat.shiftLeft_eq, Nat.mul_comm n, Nat.or_comm, ← Nat.two_pow_add_eq_or_of_lt hv]
    omega
  have hmod : value % 2 ^ 64 = value := Nat.mod_eq_of_lt (by omega)
  calc value ||| (n <<< shift) % 2 ^ 64
      = value % 2 ^ 64 ||| (n <<< shift) % 2 ^ 64 := by rw [hmod]
    _ = (value ||| n <<< shift) % 2 ^ 64 := (Nat.or_mod_two_pow ..).symm
    _ = (value + 2 ^ shift * n) % 2 ^ 64 := by rw [hsum]

/-- A byte that is not the tenth one fits. -/
theorem value_add_lt {b : UInt8} (hv : value < 2 ^ shift) (hs : shift + 7 < 64) :
    value + 2 ^ shift * (b.toNat % 128) < 2 ^ (shift + 7) ∧
      (value + 2 ^ shift * (b.toNat % 128)) % 2 ^ 64 = value + 2 ^ shift * (b.toNat % 128) := by
  have hpow : 2 ^ (shift + 7) = 2 ^ shift * 128 := Nat.pow_add 2 shift 7
  have hle : 2 ^ shift * (b.toNat % 128) ≤ 2 ^ shift * 127 := Nat.mul_le_mul_left _ (by omega)
  have h64 : 2 ^ (shift + 7) ≤ 2 ^ 64 := Nat.pow_le_pow_right (by omega) (by omega)
  exact ⟨by omega, Nat.mod_eq_of_lt (by omega)⟩

/-- One byte more, at its place in the sum. -/
theorem value_add_cons (b : UInt8) (bs : List UInt8) :
    value + 2 ^ shift * (b.toNat % 128) + 2 ^ (shift + 7) * varintValue bs =
      value + 2 ^ shift * varintValue (b :: bs) := by
  have hpow : 2 ^ (shift + 7) = 2 ^ shift * 128 := Nat.pow_add 2 shift 7
  rw [varintValue_cons, hpow, Nat.mul_add, Nat.mul_assoc, Nat.add_assoc]

/-- `read_varint` on a varint of at most ten bytes: it stops right behind it, with what the
    bytes stand for modulo 2^64. -/
theorem readVarintFrom_of_isVarint {bs : List UInt8} (hbs : IsVarint bs)
    (hv : value < 2 ^ shift) (hs : shift + 7 * bs.length < 71) (hr : r.bytes = bs ++ rest) :
    ∃ r', readVarintFrom value shift r =
        .ok (some ((value + 2 ^ shift * varintValue bs) % 2 ^ 64), r') ∧
      r'.bytes = rest ∧ r'.fault = r.fault := by
  induction hbs generalizing value shift r with
  | @last b hb =>
    obtain ⟨r', hone, hb', hf⟩ := Reader.read_one hr
    have hlast : b &&& 0x80 = 0 := (and_high_eq_zero b).mpr hb
    refine ⟨r', ?_, hb', hf⟩
    rw [readVarintFrom]
    simp only [List.length_singleton] at hs
    simp only [hone, hlast, if_true, toNat_and_low, lor_payload hv (by omega : shift ≤ 64)]
    rw [varintValue_cons, varintValue_nil, Nat.mul_zero, Nat.add_zero]
  | @more b bs hb hbs ih =>
    obtain ⟨r₁, hone, hb', hf⟩ := Reader.read_one hr
    have hmore : ¬ b &&& 0x80 = 0 := by
      rw [and_high_eq_zero]
      omega
    have hpos : 0 < bs.length := by cases hbs <;> simp
    rw [List.length_cons] at hs
    -- A continuation is followed while the shift stays below 64.
    have hshift : ¬ shift + 7 ≥ 64 := by omega
    obtain ⟨hlt, hmod⟩ := value_add_lt (b := b) hv (by omega)
    obtain ⟨r', hr', hb'', hf'⟩ := ih hlt (by omega) hb'
    refine ⟨r', ?_, hb'', hf'.trans hf⟩
    rw [readVarintFrom]
    simp only [hone, hmore, hshift, if_false, toNat_and_low,
      lor_payload hv (by omega : shift ≤ 64), hmod, hr', value_add_cons]

/-- Whatever `read_varint` returns a number for is a varint of at most ten bytes. -/
theorem readVarintFrom_some (hv : value < 2 ^ shift) (hs : shift < 64)
    (h : readVarintFrom value shift r = .ok (some n, r')) :
    ∃ bs, IsVarint bs ∧ shift + 7 * bs.length < 71 ∧ r.bytes = bs ++ r'.bytes ∧
      n = (value + 2 ^ shift * varintValue bs) % 2 ^ 64 := by
  induction hk : 64 - shift using Nat.strongRecOn generalizing value shift r with
  | ind k ih =>
    rw [readVarintFrom] at h
    split at h
    · split at h <;> simp at h
    · split at h <;> simp at h
    · rename_i b bs r₁ hread
      obtain ⟨hb, hlen, -⟩ := Reader.read_bytes (by omega) hread
      have hnil : bs = [] := List.length_eq_zero_iff.mp (by simpa using hlen)
      subst hnil
      rw [List.singleton_append] at hb
      simp only [toNat_and_low, lor_payload hv (by omega : shift ≤ 64)] at h
      split at h
      · -- The last byte.
        rename_i hlast
        simp only [Except.ok.injEq, Prod.mk.injEq, Option.some.injEq] at h
        obtain ⟨rfl, rfl⟩ := h
        refine ⟨[b], .last ((and_high_eq_zero b).mp hlast), ?_, hb.symm, ?_⟩
        · simp only [List.length_singleton]
          omega
        · rw [varintValue_cons, varintValue_nil, Nat.mul_zero, Nat.add_zero]
      · rename_i hmore
        rw [and_high_eq_zero] at hmore
        split at h
        · simp at h
        · obtain ⟨hlt, hmod⟩ := value_add_lt (b := b) hv (by omega)
          rw [hmod] at h
          obtain ⟨bs, hbs, hlen', hbytes, hn⟩ :=
            ih (64 - (shift + 7)) (by omega) hlt (by omega) h rfl
          refine ⟨b :: bs, .more (by omega) hbs, ?_, ?_, ?_⟩
          · rw [List.length_cons]
            omega
          · rw [← hb, hbytes, List.cons_append]
          · rw [hn, value_add_cons]

/-- A varint that is cut, or never ends, is an error. -/
theorem readVarintFrom_cut (hb : ∀ b ∈ r.bytes, 128 ≤ b.toNat) (hf : r.fault = none)
    (hcut : r.bytes ≠ [] ∨ shift ≠ 0) : ∃ e, readVarintFrom value shift r = .error e := by
  induction hk : r.bytes.length generalizing value shift r with
  | zero =>
    have he : r.bytes = [] := List.length_eq_zero_iff.mp hk
    have hs : shift ≠ 0 := hcut.resolve_left (fun h => h he)
    rw [readVarintFrom]
    exact ⟨_, by simp [Reader.read_of_end he hf, hs]; rfl⟩
  | succ k ih =>
    obtain ⟨x, b, he⟩ := List.exists_cons_of_length_eq_add_one hk
    obtain ⟨r', hone, hb', hf'⟩ := Reader.read_one he
    have hmore : ¬ x &&& 0x80 = 0 := by
      have := hb x (by simp [he])
      rw [and_high_eq_zero]
      omega
    rw [readVarintFrom]
    simp only [hone, hmore, if_false]
    -- Too many continuations, or one more octet to read.
    by_cases hs : shift + 7 ≥ 64
    · exact ⟨_, by simp [hs]; rfl⟩
    · simp only [hs, if_false]
      refine ih ?_ (hf'.trans hf) (Or.inr (by omega)) ?_
      · intro y hy
        exact hb y (by rw [he]; exact List.mem_cons_of_mem _ (by rwa [← hb']))
      · rw [he] at hk
        rw [hb']
        simpa using hk

/-- What `read_varint` makes of a varint. -/
theorem readVarint_of_isVarint {bs : List UInt8} (hbs : IsVarint bs) (hlen : bs.length ≤ 10)
    (hr : r.bytes = bs ++ rest) :
    ∃ r', readVarint r = .ok (some (varintValue bs % 2 ^ 64), r') ∧ r'.bytes = rest ∧
      r'.fault = r.fault := by
  obtain ⟨r', h, hb, hf⟩ :=
    readVarintFrom_of_isVarint hbs (show 0 < 2 ^ 0 by decide) (by omega) hr
  rw [Nat.pow_zero, Nat.one_mul, Nat.zero_add] at h
  exact ⟨r', h, hb, hf⟩

/-- A varint that was read stands in the stream: ten bytes at most, cut to sixty-four bits. -/
theorem readVarint_some (h : readVarint r = .ok (some n, r')) :
    ∃ bs, IsVarint bs ∧ bs.length ≤ 10 ∧ r.bytes = bs ++ r'.bytes ∧
      n = varintValue bs % 2 ^ 64 := by
  obtain ⟨bs, hbs, hlen, hb, hn⟩ := readVarintFrom_some (by decide) (by decide) h
  rw [Nat.pow_zero, Nat.one_mul, Nat.zero_add] at hn
  exact ⟨bs, hbs, by omega, hb, hn⟩

/-- Reading a number takes at least one byte. -/
theorem readVarint_shortens (h : readVarint r = .ok (some n, r')) :
    r'.bytes.length < r.bytes.length := by
  obtain ⟨bs, hbs, -, hb, -⟩ := readVarint_some h
  have hpos : 0 < bs.length := by cases hbs <;> simp
  rw [hb, List.length_append]
  omega

/-- `read_varint` reads a canonical varint back. -/
theorem readVarint_leb128 (hn : n < 2 ^ 64) (hr : r.bytes = leb128 n ++ rest) :
    ∃ r', readVarint r = .ok (some n, r') ∧ r'.bytes = rest ∧ r'.fault = r.fault := by
  have hlen : (leb128 n).length ≤ 9 + 1 := length_leb128_le (by omega)
  obtain ⟨r', h, hb, hf⟩ := readVarint_of_isVarint (isVarint_leb128 n) hlen hr
  rw [varintValue_leb128, Nat.mod_eq_of_lt hn] at h
  exact ⟨r', h, hb, hf⟩

/-- The end of the stream where a varint should start is no error. -/
theorem readVarint_end (hb : r.bytes = []) (hf : r.fault = none) :
    readVarint r = .ok (none, { r with chunks := [] }) := by
  unfold readVarint
  rw [readVarintFrom]
  simp [Reader.read_of_end hb hf]

/-! ### Frames -/

/-- Every message read takes bytes off the stream, so the callers' loop ends. -/
theorem readFrame_shortens {msg : M} (h : readFrame M r = .ok (some msg, r')) :
    r'.bytes.length < r.bytes.length := by
  unfold readFrame at h
  split at h
  · simp at h
  · simp at h
  · rename_i len r₁ hv
    split at h
    · simp at h
    · split at h
      · simp at h
      · rename_i buf r₂ hx
        split at h
        · simp at h
        · simp only [Except.ok.injEq, Prod.mk.injEq] at h
          rw [← h.2]
          have hshort := readVarint_shortens hv
          have hlen := congrArg List.length (Reader.readExact_bytes hx)
          rw [List.length_append] at hlen
          omega

/-- `read_frame` until there is no further message: the messages, and how it ended. -/
def readFrames (M : Type) [Message M] (reader : Reader) : List M × Except String Unit :=
  match h : readFrame M reader with
  | .error e => ([], .error e)
  | .ok (none, _) => ([], .ok ())
  | .ok (some msg, reader') =>
    have : reader'.bytes.length < reader.bytes.length := readFrame_shortens h
    let (msgs, outcome) := readFrames M reader'
    (msg :: msgs, outcome)
termination_by reader.bytes.length

/-- The loop ends with the first error. -/
theorem readFrames_of_error {e : String} (h : readFrame M r = .error e) :
    readFrames M r = ([], .error e) := by
  rw [readFrames]
  split <;> simp_all

/-- The loop ends with the stream. -/
theorem readFrames_of_none (h : readFrame M r = .ok (none, r')) :
    readFrames M r = ([], .ok ()) := by
  rw [readFrames]
  split <;> simp_all

/-- The loop goes on after a message. -/
theorem readFrames_of_some {msg : M} (h : readFrame M r = .ok (some msg, r')) :
    readFrames M r = (msg :: (readFrames M r').1, (readFrames M r').2) := by
  rw [readFrames]
  split
  · simp_all
  · simp_all
  · rename_i msg' r₁ h'
    rw [h] at h'
    simp only [Except.ok.injEq, Prod.mk.injEq, Option.some.injEq] at h'
    obtain ⟨rfl, rfl⟩ := h'
    rfl

/-- The stream that `write_frame` makes of these messages. -/
def written (msgs : List M) : List UInt8 := msgs.foldl writeFrame []

/-- Frames are written one behind the other. -/
theorem foldl_writeFrame (msgs : List M) (w : List UInt8) :
    msgs.foldl writeFrame w = w ++ msgs.flatMap Message.encodeLengthDelimited := by
  induction msgs generalizing w with
  | nil => simp
  | cons m ms ih => rw [List.foldl_cons, ih, writeFrame, List.flatMap_cons, List.append_assoc]

/-- No messages, no bytes. -/
@[simp] theorem written_nil : written ([] : List M) = [] := rfl

/-- The first frame, then the others. -/
@[simp] theorem written_cons (m : M) (ms : List M) :
    written (m :: ms) = Message.encodeLengthDelimited m ++ written ms := by
  simp [written, writeFrame, foldl_writeFrame]

/-- The messages that `write_frame`, going on after `w`, has put wholly within the first `n`
    bytes of the stream. -/
def wholeFrom (w : List UInt8) (n : Nat) : List M → List M
  | [] => []
  | m :: ms =>
    let w' := writeFrame w m
    if w'.length ≤ n then m :: wholeFrom w' n ms else []

/-- The messages that lie wholly within the first `n` bytes of the stream. -/
def wholeWithin (n : Nat) (msgs : List M) : List M := wholeFrom [] n msgs

/-- What was written before shifts the stream and changes nothing else. -/
theorem wholeFrom_append (w w' : List UInt8) (n : Nat) (msgs : List M) :
    wholeFrom (w ++ w') (w.length + n) msgs = wholeFrom w' n msgs := by
  induction msgs generalizing w' with
  | nil => rfl
  | cons m ms ih =>
    have hshift : writeFrame (w ++ w') m = w ++ writeFrame w' m := List.append_assoc _ _ _
    simp only [wholeFrom]
    rw [hshift, List.length_append, ih]
    simp only [Nat.add_le_add_iff_left]

/-- The first message is whole when its frame fits, and the others follow it. -/
theorem wholeWithin_cons (n : Nat) (m : M) (ms : List M) :
    wholeWithin n (m :: ms) =
      if (Message.encodeLengthDelimited m).length ≤ n then
        m :: wholeWithin (n - (Message.encodeLengthDelimited m).length) ms
      else [] := by
  have hfirst : writeFrame [] m = Message.encodeLengthDelimited m ++ [] :=
    (List.append_nil _).symm
  unfold wholeWithin
  simp only [wholeFrom]
  rw [hfirst, List.length_append, List.length_nil, Nat.add_zero]
  split
  · rename_i hfits
    obtain ⟨k, rfl⟩ := Nat.exists_eq_add_of_le hfits
    rw [wholeFrom_append, Nat.add_sub_cancel_left]
  · rfl

section Prost

/-- Decoding undoes encoding. -/
def DecodesEncoded (M : Type) [Message M] : Prop :=
  ∀ m : M, Message.decode (Message.encode m) = some m

/-- The delimited form is the canonical varint of the length, then the message. -/
def DelimitsCanonically (M : Type) [Message M] : Prop :=
  ∀ m : M, Message.encodeLengthDelimited m =
    leb128 (Message.encode m).length ++ Message.encode m

variable {m : M}

/-- A whole frame is read back, up to its last byte and no further. -/
theorem readFrame_whole (hdec : DecodesEncoded M) (hdel : DelimitsCanonically M)
    (hmax : (Message.encode m).length ≤ maxFrameBytes)
    (hr : r.bytes = Message.encodeLengthDelimited m ++ rest) :
    ∃ r', readFrame M r = .ok (some m, r') ∧ r'.bytes = rest ∧ r'.fault = r.fault := by
  rw [hdel m, List.append_assoc] at hr
  have hbound : maxFrameBytes < 2 ^ 64 := by decide
  obtain ⟨r₁, hlen, hb, hf⟩ := readVarint_leb128 (by omega) hr
  obtain ⟨r', hbody, hb', hf'⟩ := Reader.readExact_of_append hb
  refine ⟨r', ?_, hb', hf'.trans hf⟩
  have hle : ¬ (Message.encode m).length > maxFrameBytes := by omega
  simp only [readFrame, hlen, hle, if_false, hbody, hdec m]

/-- A cut frame is an error, unless nothing of it is there. -/
theorem readFrame_cut (hdel : DelimitsCanonically M)
    (hmax : (Message.encode m).length ≤ maxFrameBytes)
    (hr : r.bytes <+: Message.encodeLengthDelimited m)
    (hcut : r.bytes ≠ Message.encodeLengthDelimited m) (hf : r.fault = none)
    (hne : r.bytes ≠ []) : ∃ e, readFrame M r = .error e := by
  rw [hdel m] at hr hcut
  by_cases hwhole : leb128 (Message.encode m).length <+: r.bytes
  · -- The varint is there; what is cut is the body.
    obtain ⟨body, hb⟩ := hwhole
    have hpre : body <+: Message.encode m := by
      rw [← hb] at hr
      exact (List.prefix_append_right_inj _).mp hr
    have hshort : body.length < (Message.encode m).length := by
      refine lt_of_le_of_ne hpre.length_le ?_
      intro he
      rw [hpre.eq_of_length he] at hb
      exact hcut hb.symm
    have hbound : maxFrameBytes < 2 ^ 64 := by decide
    obtain ⟨r₁, hlen, hb₁, -⟩ := readVarint_leb128 (by omega) hb.symm
    obtain ⟨e, he⟩ := Reader.readExact_of_short (r := r₁) (n := (Message.encode m).length)
      (by rw [hb₁]; exact hshort)
    have hle : ¬ (Message.encode m).length > maxFrameBytes := by omega
    exact ⟨_, by simp only [readFrame, hlen, hle, if_false, he]; rfl⟩
  · -- The cut is inside the varint.
    have hpre : r.bytes <+: leb128 (Message.encode m).length := by
      rcases List.prefix_or_prefix_of_prefix hr (List.prefix_append _ _) with h | h
      · exact h
      · exact absurd h hwhole
    have hvar : r.bytes ≠ leb128 (Message.encode m).length := by
      intro he
      exact hwhole (by rw [he])
    obtain ⟨e, he⟩ : ∃ e, readVarint r = .error e :=
      readVarintFrom_cut (leb128_cut hpre hvar) hf (Or.inl hne)
    exact ⟨e, by simp only [readFrame, he]⟩

/-- The end of the stream between two frames. -/
theorem readFrame_end (hb : r.bytes = []) (hf : r.fault = none) :
    readFrame M r = .ok (none, { r with chunks := [] }) := by
  simp only [readFrame, readVarint_end hb hf]

/-- Every frame has a byte: that of its length at least. -/
theorem encodeLengthDelimited_ne_nil (hdel : DelimitsCanonically M) (m : M) :
    Message.encodeLengthDelimited m ≠ [] := by
  rw [hdel m]
  simp [leb128_ne_nil]

/-- The messages read from a stream of frames, and when it ends without an error. -/
theorem readFrames_eq (hdec : DecodesEncoded M) (hdel : DelimitsCanonically M)
    {msgs : List M} (hmax : ∀ m ∈ msgs, (Message.encode m).length ≤ maxFrameBytes)
    (hr : r.bytes <+: written msgs) (hf : r.fault = none) :
    (readFrames M r).1 = wholeWithin r.bytes.length msgs ∧
      ((readFrames M r).2 = .ok () ↔ ∃ k, r.bytes = written (msgs.take k)) := by
  induction msgs generalizing r with
  | nil =>
    have hb : r.bytes = [] := by simpa using hr
    rw [readFrames_of_none (readFrame_end hb hf)]
    exact ⟨rfl, by simp [hb]⟩
  | cons m ms ih =>
    rw [written_cons] at hr
    have hm := hmax m (by simp)
    by_cases hwhole : Message.encodeLengthDelimited m <+: r.bytes
    · obtain ⟨rest, hb⟩ := hwhole
      obtain ⟨r₁, hread, hb₁, hf₁⟩ := readFrame_whole hdec hdel hm hb.symm
      have hpre : r₁.bytes <+: written ms := by
        rw [← hb] at hr
        rw [hb₁]
        exact (List.prefix_append_right_inj _).mp hr
      obtain ⟨hmsgs, hend⟩ := ih (fun m' h' => hmax m' (List.mem_cons_of_mem _ h')) hpre
        (hf₁.trans hf)
      rw [readFrames_of_some hread, hmsgs, hend]
      have hlen : r.bytes.length =
          (Message.encodeLengthDelimited m).length + r₁.bytes.length := by
        rw [← hb, List.length_append, hb₁]
      refine ⟨?_, ?_⟩
      · have hrest : r.bytes.length - (Message.encodeLengthDelimited m).length =
            r₁.bytes.length := by omega
        rw [wholeWithin_cons, if_pos (by omega), hrest]
      · rw [← hb, hb₁]
        constructor
        · rintro ⟨k, rfl⟩
          exact ⟨k + 1, by simp⟩
        · rintro ⟨k, hk⟩
          cases k with
          | zero =>
            simp only [List.take_zero, written_nil, List.append_eq_nil_iff] at hk
            exact absurd hk.1 (encodeLengthDelimited_ne_nil hdel m)
          | succ k =>
            simp only [List.take_succ_cons, written_cons] at hk
            exact ⟨k, List.append_cancel_left hk⟩
    · -- The cut is inside the next frame, or before its first byte.
      have hpre : r.bytes <+: Message.encodeLengthDelimited m := by
        rcases List.prefix_or_prefix_of_prefix hr (List.prefix_append _ _) with h | h
        · exact h
        · exact absurd h hwhole
      have hcut : r.bytes ≠ Message.encodeLengthDelimited m := by
        intro he
        exact hwhole (by rw [he])
      have hlen : r.bytes.length < (Message.encodeLengthDelimited m).length := by
        refine lt_of_le_of_ne hpre.length_le ?_
        intro he
        exact hcut (hpre.eq_of_length he)
      have hwithin : wholeWithin r.bytes.length (m :: ms) = [] := by
        rw [wholeWithin_cons, if_neg (by omega)]
      rw [hwithin]
      by_cases hne : r.bytes = []
      · rw [readFrames_of_none (readFrame_end hne hf)]
        exact ⟨rfl, by simpa [hne] using ⟨0, by simp⟩⟩
      · obtain ⟨e, he⟩ := readFrame_cut hdel hm hpre hcut hf hne
        rw [readFrames_of_error he]
        refine ⟨rfl, ?_⟩
        simp only [reduceCtorEq, false_iff, not_exists]
        intro k hk
        cases k with
        | zero => exact hne (by simpa using hk)
        | succ k =>
          rw [List.take_succ_cons, written_cons] at hk
          exact hwhole ⟨_, hk.symm⟩

/-- **Round trip over a cut stream.** However the bytes arrive and wherever the stream of
    frames is cut, what is read is every message that is wholly there, in order; then the
    end of the stream if the cut is between two frames, and an error if it is not. -/
theorem readFrames_of_cut (hdec : DecodesEncoded M) (hdel : DelimitsCanonically M)
    (msgs : List M) (hmax : ∀ m ∈ msgs, (Message.encode m).length ≤ maxFrameBytes)
    (chunks : List (List UInt8)) (hcut : chunks.flatten <+: written msgs) :
    (readFrames M { chunks }).1 = wholeWithin chunks.flatten.length msgs ∧
      ((∃ k, chunks.flatten = written (msgs.take k)) → (readFrames M { chunks }).2 = .ok ()) ∧
      ((¬ ∃ k, chunks.flatten = written (msgs.take k)) →
        ∃ e, (readFrames M { chunks }).2 = .error e) := by
  obtain ⟨hmsgs, hend⟩ := readFrames_eq (r := { chunks }) hdec hdel hmax hcut rfl
  refine ⟨hmsgs, hend.mpr, ?_⟩
  intro hno
  cases hout : (readFrames M { chunks }).2 with
  | error e => exact ⟨e, rfl⟩
  | ok u => exact absurd (hend.mp hout) hno

end Prost

/-- `CancelResponse`, a message of one `bool` field. -/
structure CancelResponse where
  wasActive : Bool
  deriving DecidableEq, Repr

/-- Field 1, which proto3 leaves out when it has its default. -/
def CancelResponse.encode (m : CancelResponse) : List UInt8 :=
  if m.wasActive then [0x08, 0x01] else []

instance : Message CancelResponse where
  encode := CancelResponse.encode
  decode
    | [] => some { wasActive := false }
    | [0x08, 0x00] => some { wasActive := false }
    | [0x08, 0x01] => some { wasActive := true }
    | _ => none
  encodeLengthDelimited m := leb128 m.encode.length ++ m.encode

/-- The message of the sample is decoded from its encoding. -/
theorem decodesEncoded_cancelResponse : DecodesEncoded CancelResponse := by
  rintro ⟨b⟩
  cases b <;> rfl

/-- Three frames, the second empty and the third cut inside its body. -/
theorem readFrames_of_cut_cancelResponse :
    (readFrames CancelResponse { chunks := [[2, 8], [], [1], [0, 2], [8]] }).1 =
        [{ wasActive := true }, { wasActive := false }] ∧
      ∃ e, (readFrames CancelResponse { chunks := [[2, 8], [], [1], [0, 2], [8]] }).2 =
        .error e := by
  -- The two frames there are.
  have hframe : ∀ m : CancelResponse, Message.encodeLengthDelimited m =
      if m.wasActive then [2, 8, 1] else [0] := by
    rintro ⟨b⟩
    cases b <;> simp [Message.encodeLengthDelimited, CancelResponse.encode, leb128]
  have hwritten : ∀ ms : List CancelResponse, written ms =
      ms.flatMap fun m => if m.wasActive then [2, 8, 1] else [0] := by
    intro ms
    induction ms with
    | nil => rfl
    | cons m ms ih => rw [written_cons, hframe, ih, List.flatMap_cons]
  obtain ⟨hmsgs, -, herr⟩ := readFrames_of_cut decodesEncoded_cancelResponse (fun _ => rfl)
    [{ wasActive := true }, { wasActive := false }, { wasActive := true }]
    (by decide) [[2, 8], [], [1], [0, 2], [8]] (by rw [hwritten]; decide)
  refine ⟨?_, herr ?_⟩
  · rw [hmsgs]
    simp [wholeWithin, wholeFrom, writeFrame, hframe]
  · rintro ⟨k, hk⟩
    rw [hwritten] at hk
    rcases k with _ | _ | _ | k
    · exact absurd hk (by decide)
    · exact absurd hk (by decide)
    · exact absurd hk (by decide)
    · exact absurd hk (by simp)

end Netdiag.Ipc
