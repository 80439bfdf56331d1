import Mathlib.Algebra.Ring.Int.Defs
import Mathlib.Algebra.Ring.Nat
import Mathlib.Data.List.Basic
import Mathlib.Tactic.Common

namespace Pcap

/-!
# The classic libpcap file format

A file header of 24 bytes, then one record header of 16 bytes and the captured bytes for
every packet.  The magic number tells the byte order of all other fields.

* `parse` — the format, read in either byte order.
* `encode` — a file in little-endian order, with microsecond timestamps.
* `parse_encode` — what is encoded is read back.
-/

/-- A packet record. -/
structure Record where
  seconds : UInt32
  micros : UInt32
  originalLength : UInt32
  data : List UInt8
  deriving DecidableEq, Repr

/-- A capture file: the fields of the header that matter, and the records. -/
structure File where
  snaplen : UInt32
  network : UInt32
  records : List Record
  deriving DecidableEq, Repr

/-- Byte order of a file. -/
inductive Order
  | little
  | big
  deriving DecidableEq, Repr

/-- The magic number of a file with microsecond timestamps. -/
def magic : UInt32 := 0xa1b2c3d4

/-! ### Reading -/

/-- Four bytes, the highest first, as a number. -/
def join32 (a b c d : UInt8) : UInt32 :=
  UInt32.ofNat (((a.toNat * 256 + b.toNat) * 256 + c.toNat) * 256 + d.toNat)

/-- Two bytes, the higher first, as a number. -/
def join16 (a b : UInt8) : UInt16 := UInt16.ofNat (a.toNat * 256 + b.toNat)

/-- The next 32-bit field. -/
def word : Order → List UInt8 → Option (UInt32 × List UInt8)
  | .little, a :: b :: c :: d :: rest => some (join32 d c b a, rest)
  | .big, a :: b :: c :: d :: rest => some (join32 a b c d, rest)
  | _, _ => none

/-- The next 16-bit field. -/
def half : Order → List UInt8 → Option (UInt16 × List UInt8)
  | .little, a :: b :: rest => some (join16 b a, rest)
  | .big, a :: b :: rest => some (join16 a b, rest)
  | _, _ => none

/-- The next record: its header, and as many bytes as the header counts. -/
def parseRecord (order : Order) (bytes : List UInt8) : Option (Record × List UInt8) := do
  let (seconds, bytes) ← word order bytes
  let (micros, bytes) ← word order bytes
  let (capturedLength, bytes) ← word order bytes
  let (originalLength, bytes) ← word order bytes
  if bytes.length < capturedLength.toNat then none
  else
    some ({ seconds, micros, originalLength, data := bytes.take capturedLength.toNat },
      bytes.drop capturedLength.toNat)

theorem word_shortens {order : Order} {bytes rest : List UInt8} {x : UInt32}
    (h : word order bytes = some (x, rest)) : bytes.length = rest.length + 4 := by
  match order, bytes with
  | .little, a :: b :: c :: d :: l =>
    simp only [word, Option.some.injEq, Prod.mk.injEq] at h
    simp [h.2]
  | .big, a :: b :: c :: d :: l =>
    simp only [word, Option.some.injEq, Prod.mk.injEq] at h
    simp [h.2]
  | .little, [] => simp [word] at h
  | .little, [_] => simp [word] at h
  | .little, [_, _] => simp [word] at h
  | .little, [_, _, _] => simp [word] at h
  | .big, [] => simp [word] at h
  | .big, [_] => simp [word] at h
  | .big, [_, _] => simp [word] at h
  | .big, [_, _, _] => simp [word] at h

theorem parseRecord_shortens {order : Order} {bytes rest : List UInt8} {r : Record}
    (h : parseRecord order bytes = some (r, rest)) : rest.length < bytes.length := by
  unfold parseRecord at h
  simp only [bind, Option.bind_eq_some_iff] at h
  obtain ⟨⟨_, b₁⟩, h₁, ⟨_, b₂⟩, h₂, ⟨len, b₃⟩, h₃, ⟨_, b₄⟩, h₄, h⟩ := h
  have l₁ := word_shortens h₁
  dsimp only at h₂ h₃ h₄ h
  split_ifs at h
  simp only [Option.some.injEq, Prod.mk.injEq] at h
  rw [← h.2, List.length_drop]
  have l₂ := word_shortens h₂
  have l₃ := word_shortens h₃
  have l₄ := word_shortens h₄
  omega

/-- Records up to the end of the file. -/
def parseRecords (order : Order) (bytes : List UInt8) : Option (List Record) :=
  if bytes.isEmpty then some []
  else
    match h : parseRecord order bytes with
    | none => none
    | some (r, rest) =>
      have : rest.length < bytes.length := parseRecord_shortens h
      (parseRecords order rest).map (r :: ·)
termination_by bytes.length

/-- What follows the magic number. -/
def parseBody (order : Order) (bytes : List UInt8) : Option File := do
  let (major, bytes) ← half order bytes
  let (minor, bytes) ← half order bytes
  let (_thiszone, bytes) ← word order bytes
  let (_sigfigs, bytes) ← word order bytes
  let (snaplen, bytes) ← word order bytes
  let (network, bytes) ← word order bytes
  if major ≠ 2 ∨ minor ≠ 4 then none
  else
    let records ← parseRecords order bytes
    some { snaplen, network, records }

/-- A capture file. -/
def parse (bytes : List UInt8) : Option File :=
  match word .little bytes, word .big bytes with
  | some (m, rest), some (m', _) =>
    if m = magic then parseBody .little rest
    else if m' = magic then parseBody .big rest
    else none
  | _, _ => none

/-! ### Writing -/

/-- A 32-bit field, the lowest byte first. -/
def le32 (x : UInt32) : List UInt8 :=
  [x.toUInt8, (x >>> 8).toUInt8, (x >>> 16).toUInt8, (x >>> 24).toUInt8]

/-- A 16-bit field, the lower byte first. -/
def le16 (x : UInt16) : List UInt8 := [x.toUInt8, (x >>> 8).toUInt8]

/-- A file header. -/
def encodeHeader (snaplen network : UInt32) : List UInt8 :=
  le32 magic ++ le16 2 ++ le16 4 ++ le32 0 ++ le32 0 ++ le32 snaplen ++ le32 network

/-- A record. -/
def encodeRecord (r : Record) : List UInt8 :=
  le32 r.seconds ++ le32 r.micros ++ le32 (UInt32.ofNat r.data.length) ++ le32 r.originalLength
    ++ r.data

/-- A capture file. -/
def encode (f : File) : List UInt8 :=
  encodeHeader f.snaplen f.network ++ f.records.flatMap encodeRecord

/-! ### Round trip -/

theorem toNat_shiftRight_toUInt8 (x : UInt32) (k : Nat) (hk : k < 32) :
    (x >>> UInt32.ofNat k).toUInt8.toNat = x.toNat / 2 ^ k % 256 := by
  have hk' : k % 2 ^ 32 = k := Nat.mod_eq_of_lt (by omega)
  rw [UInt32.toNat_toUInt8, UInt32.toNat_shiftRight, UInt32.toNat_ofNat', hk',
    Nat.mod_eq_of_lt hk, Nat.shiftRight_eq_div_pow]

theorem word_le32 (x : UInt32) (rest : List UInt8) :
    word .little (le32 x ++ rest) = some (x, rest) := by
  have h₀ : x.toUInt8.toNat = x.toNat % 256 := UInt32.toNat_toUInt8 x
  have h₁ : (x >>> 8).toUInt8.toNat = x.toNat / 2 ^ 8 % 256 :=
    toNat_shiftRight_toUInt8 x 8 (by decide)
  have h₂ : (x >>> 16).toUInt8.toNat = x.toNat / 2 ^ 16 % 256 :=
    toNat_shiftRight_toUInt8 x 16 (by decide)
  have h₃ : (x >>> 24).toUInt8.toNat = x.toNat / 2 ^ 24 % 256 :=
    toNat_shiftRight_toUInt8 x 24 (by decide)
  have hx := x.toNat_lt
  simp only [le32, List.cons_append, List.nil_append, word, Option.some.injEq, Prod.mk.injEq,
    and_true]
  apply UInt32.toNat_inj.mp
  rw [join32, UInt32.toNat_ofNat', h₀, h₁, h₂, h₃]
  omega

theorem parseRecord_encodeRecord (r : Record) (h : r.data.length < 2 ^ 32)
    (rest : List UInt8) :
    parseRecord .little (encodeRecord r ++ rest) = some (r, rest) := by
  have hlen : (UInt32.ofNat r.data.length).toNat = r.data.length := by
    rw [UInt32.toNat_ofNat']
    exact Nat.mod_eq_of_lt h
  simp only [parseRecord, encodeRecord, List.append_assoc, word_le32, bind, Option.bind_some,
    hlen]
  rw [if_neg (by rw [List.length_append]; omega), List.take_left, List.drop_left]

theorem parseRecords_encode (records : List Record)
    (h : ∀ r ∈ records, r.data.length < 2 ^ 32) :
    parseRecords .little (records.flatMap encodeRecord) = some records := by
  induction records with
  | nil =>
    rw [parseRecords]
    rfl
  | cons r rs ih =>
    have hr := parseRecord_encodeRecord r (h r List.mem_cons_self) (rs.flatMap encodeRecord)
    have hrs := ih (fun r' mem => h r' (List.mem_cons_of_mem _ mem))
    have hne : ((r :: rs).flatMap encodeRecord).isEmpty = false := by
      simp [encodeRecord, le32]
    rw [parseRecords, hne, if_neg (by decide)]
    split
    · rename_i hnone
      rw [List.flatMap_cons, hr] at hnone
      cases hnone
    · rename_i r' rest hsome
      rw [List.flatMap_cons, hr] at hsome
      cases hsome
      rw [hrs]
      rfl

/-- **Round trip**, as long as every captured length fits its field. -/
theorem parse_encode (f : File) (h : ∀ r ∈ f.records, r.data.length < 2 ^ 32) :
    parse (encode f) = some f := by
  have hbody : parseBody .little (le16 2 ++ (le16 4 ++ (le32 0 ++ (le32 0 ++
      (le32 f.snaplen ++ (le32 f.network ++ f.records.flatMap encodeRecord)))))) = some f := by
    have major (rest : List UInt8) : half .little (le16 2 ++ rest) = some (2, rest) := rfl
    have minor (rest : List UInt8) : half .little (le16 4 ++ rest) = some (4, rest) := rfl
    simp only [parseBody, major, minor, word_le32, bind, Option.bind_some,
      parseRecords_encode f.records h]
    rfl
  have hbig (rest : List UInt8) : ∃ m, word .big (le32 magic ++ rest) = some (m, rest) :=
    ⟨_, rfl⟩
  obtain ⟨m, hm⟩ := hbig (le16 2 ++ (le16 4 ++ (le32 0 ++ (le32 0 ++
      (le32 f.snaplen ++ (le32 f.network ++ f.records.flatMap encodeRecord))))))
  simp only [parse, encode, encodeHeader, List.append_assoc, word_le32, hm, if_true, hbody]

end Pcap
