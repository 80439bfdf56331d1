import Netdiag.Lib.Text

namespace Text

/-!
# Bytes that should be text

`String::from_utf8_lossy`: the characters of a byte string, with U+FFFD for what is no character.

* `brokenLength` — how many bytes one U+FFFD stands for: as many as could have begun a character.
* `fromUtf8Lossy_utf8` — the bytes of a text are read back.
-/

/-- The byte goes on a character. -/
def isContinuation (b : UInt8) : Bool := b &&& 0xc0 == 0x80

/-- Some character of three or four bytes starts with these two. -/
def isOpening (first second : UInt8) : Bool :=
  (first == 0xe0 && 0xa0 ≤ second && second ≤ 0xbf) ||
  (first == 0xed && 0x80 ≤ second && second ≤ 0x9f) ||
  (0xe1 ≤ first && first ≤ 0xef && first != 0xed && isContinuation second) ||
  (first == 0xf0 && 0x90 ≤ second && second ≤ 0xbf) ||
  (first == 0xf4 && 0x80 ≤ second && second ≤ 0x8f) ||
  (0xf1 ≤ first && first ≤ 0xf3 && isContinuation second)

/-- The bytes one U+FFFD stands for, where no character starts. -/
def brokenLength : List UInt8 → Nat
  | first :: second :: rest =>
    if isOpening first second then
      match rest with
      -- only a character of four bytes can still be open
      | third :: _ => if 0xf0 ≤ first && isContinuation third then 3 else 2
      | [] => 2
    else 1
  | _ => 1

/-- The character the bytes start with. -/
def firstChar (bytes : List UInt8) : Option Char := bytes.toByteArray.utf8DecodeChar? 0

/-- The characters of the bytes, at most `fuel` of them. -/
def lossyLoop : Nat → List UInt8 → List Char
  | 0, _ => []
  | _ + 1, [] => []
  | fuel + 1, bytes@(_ :: _) =>
    match firstChar bytes with
    | some c => c :: lossyLoop fuel (bytes.drop c.utf8Size)
    | none => '\uFFFD' :: lossyLoop fuel (bytes.drop (brokenLength bytes))

/-- `String::from_utf8_lossy`. -/
def fromUtf8Lossy (bytes : List UInt8) : List Char := lossyLoop bytes.length bytes

theorem firstChar_append (c : Char) (rest : List UInt8) :
    firstChar (String.utf8EncodeChar c ++ rest) = some c := by
  unfold firstChar
  rw [List.toByteArray_append, ByteArray.utf8DecodeChar?_utf8EncodeChar_append]

theorem lossyLoop_utf8 (text : List Char) {fuel : Nat} (h : (utf8 text).length ≤ fuel) :
    lossyLoop fuel (utf8 text) = text := by
  induction text generalizing fuel with
  | nil => cases fuel <;> rfl
  | cons c cs ih =>
    have split : utf8 (c :: cs) = String.utf8EncodeChar c ++ utf8 cs := rfl
    have pos := List.length_pos_of_ne_nil (String.utf8EncodeChar_ne_nil (c := c))
    rw [split, List.length_append] at h
    obtain ⟨n, rfl⟩ := Nat.exists_eq_add_one_of_ne_zero (show fuel ≠ 0 by omega)
    obtain ⟨b, bs, encoded⟩ := List.exists_cons_of_ne_nil (String.utf8EncodeChar_ne_nil (c := c))
    have first : firstChar (b :: (bs ++ utf8 cs)) = some c := by
      rw [← List.cons_append, ← encoded, firstChar_append]
    have rest : (b :: (bs ++ utf8 cs)).drop c.utf8Size = utf8 cs := by
      rw [← List.cons_append, ← encoded, ← String.length_utf8EncodeChar, List.drop_left]
    rw [split, encoded, List.cons_append, lossyLoop, first]
    show c :: lossyLoop n ((b :: (bs ++ utf8 cs)).drop c.utf8Size) = c :: cs
    rw [rest, ih (by omega)]

/-- The bytes of a text are read back. -/
theorem fromUtf8Lossy_utf8 (text : List Char) : fromUtf8Lossy (utf8 text) = text :=
  lossyLoop_utf8 text (Nat.le_refl _)

-- A cut euro sign, a lone continuation byte and a surrogate.
example : fromUtf8Lossy [0x61, 0xe2, 0x82, 0x62, 0x80, 0xed, 0xa0, 0x80] =
    ['a', '\uFFFD', 'b', '\uFFFD', '\uFFFD', '\uFFFD', '\uFFFD'] := by decide +kernel

end Text
