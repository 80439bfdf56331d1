import Netdiag.Net.Addr
import Netdiag.Lib.Text
import Mathlib.Data.List.TakeWhile

namespace Netdiag

/-!
# Addresses — text

`IpAddr::from_str` of the standard library, reader by reader, and `octets`.

* `IpAddr.parse` — an address in any of its presentations: dotted quads, groups with or
  without `::`, groups that end in dotted quads.
* `IpAddr.parse_chars` — what is accepted consists of hexadecimal digits, dots and colons.
-/

namespace IpAddr

/-- `octets`, most significant byte first. -/
def octets : IpAddr → List (BitVec 8)
  | .v4 bits => [24, 16, 8, 0].map (fun k => (bits >>> k).setWidth 8)
  | .v6 bits =>
    [120, 112, 104, 96, 88, 80, 72, 64, 56, 48, 40, 32, 24, 16, 8, 0].map
      (fun k => (bits >>> k).setWidth 8)

/-! ### Readers

A reader takes the text that is left and returns what it read with the rest; `none` leaves
the text as it was (`read_atomically`). -/

/-- `char::to_digit`. -/
def toDigit (radix : Nat) (c : Char) : Option Nat :=
  let n := c.toNat
  let digit :=
    if 48 ≤ n ∧ n ≤ 57 then some (n - 48)
    else if 97 ≤ n ∧ n ≤ 122 then some (n - 87)
    else if 65 ≤ n ∧ n ≤ 90 then some (n - 55)
    else none
  digit.filter (· < radix)

/-- `read_number`, into a type whose largest value is `max`. -/
def readNumber (radix maxDigits max : Nat) (allowZeroPrefix : Bool) (s : List Char) :
    Option (Nat × List Char) :=
  let digits := s.takeWhile (fun c => (toDigit radix c).isSome)
  let n := digits.foldl (fun acc c => acc * radix + (toDigit radix c).getD 0) 0
  if digits.isEmpty || decide (maxDigits < digits.length) || decide (max < n) then none
  else if !allowZeroPrefix && digits.head? == some '0' && decide (1 < digits.length) then none
  else some (n, s.dropWhile (fun c => (toDigit radix c).isSome))

/-- `read_separator`: no separator stands before the first element. -/
def readSeparator {α : Type} (sep : Char) (index : Nat)
    (inner : List Char → Option (α × List Char)) (s : List Char) : Option (α × List Char) :=
  if index = 0 then inner s
  else
    match s with
    | [] => none
    | c :: rest => if c = sep then inner rest else none

/-- An octet of a dotted quad: `read_number(10, Some(3), false)`. -/
def readOctet : List Char → Option (Nat × List Char) := readNumber 10 3 255 false

/-- A group: `read_number(16, Some(4), true)`. -/
def readGroup : List Char → Option (Nat × List Char) := readNumber 16 4 65535 true

/-- `read_ipv4_addr`. -/
def readIpv4Addr (s : List Char) : Option ((Nat × Nat × Nat × Nat) × List Char) := do
  let (a, s) ← readSeparator '.' 0 readOctet s
  let (b, s) ← readSeparator '.' 1 readOctet s
  let (c, s) ← readSeparator '.' 2 readOctet s
  let (d, s) ← readSeparator '.' 3 readOctet s
  return ((a, b, c, d), s)

/-- `read_groups` into the last `left` of `limit` groups: the groups, and whether they end in an
    embedded IPv4 address. -/
def readGroups (limit : Nat) : Nat → List Char → List Nat × Bool × List Char
  | 0, s => ([], false, s)
  | left + 1, s =>
    let i := limit - (left + 1)
    -- An embedded address takes two groups.
    match if i < limit - 1 then readSeparator ':' i readIpv4Addr s else none with
    | some ((a, b, c, d), rest) => ([a * 256 + b, c * 256 + d], true, rest)
    | none =>
      match readSeparator ':' i readGroup s with
      | some (g, rest) =>
        let (gs, ipv4, rest) := readGroups limit left rest
        (g :: gs, ipv4, rest)
      | none => ([], false, s)

/-- `read_ipv6_addr`: eight groups. -/
def readIpv6Addr (s : List Char) : Option (List Nat × List Char) :=
  let (head, headIpv4, s) := readGroups 8 8 s
  if head.length = 8 then some (head, s)
  else if headIpv4 then none
  else
    match s with
    | ':' :: ':' :: s =>
      -- The colons stand for at least one group.
      let limit := 8 - (head.length + 1)
      let (tail, _, s) := readGroups limit limit s
      some (head ++ List.replicate (8 - head.length - tail.length) 0 ++ tail, s)
    | _ => none

/-- `read_ip_addr`. -/
def readIpAddr (s : List Char) : Option (IpAddr × List Char) :=
  match readIpv4Addr s with
  | some ((a, b, c, d), rest) =>
    some (.v4 (BitVec.ofNat 32 (((a * 256 + b) * 256 + c) * 256 + d)), rest)
  | none =>
    (readIpv6Addr s).map (fun r =>
      (.v6 (BitVec.ofNat 128 (r.1.foldl (fun acc g => acc * 65536 + g) 0)), r.2))

/-- `IpAddr::from_str`: the whole text. -/
def parse (s : List Char) : Option IpAddr :=
  match readIpAddr s with
  | some (ip, []) => some ip
  | _ => none

/-! ### Which characters are accepted -/

/-- A character of an address. -/
def isAddressChar (c : Char) : Bool := (toDigit 16 c).isSome || c == '.' || c == ':'

/-- Reading went from `s` to `rest` over characters of addresses. -/
def Reads (s rest : List Char) : Prop :=
  ∃ text, s = text ++ rest ∧ ∀ c ∈ text, isAddressChar c = true

/-- Nothing was read. -/
theorem Reads.refl (s : List Char) : Reads s s := ⟨[], rfl, by simp⟩

/-- What was read in two steps. -/
theorem Reads.trans {s t u : List Char} (h : Reads s t) (h' : Reads t u) : Reads s u := by
  obtain ⟨a, rfl, ha⟩ := h
  obtain ⟨b, rfl, hb⟩ := h'
  refine ⟨a ++ b, by rw [List.append_assoc], ?_⟩
  intro c hc
  rcases List.mem_append.mp hc with hc | hc
  · exact ha c hc
  · exact hb c hc

/-- One character more was read. -/
theorem Reads.cons {c : Char} {s rest : List Char} (hc : isAddressChar c = true)
    (h : Reads s rest) : Reads (c :: s) rest :=
  Reads.trans ⟨[c], rfl, by simpa using hc⟩ h

/-- What a reader accepts is made of characters of addresses. -/
def Sound {α : Type} (reader : List Char → Option (α × List Char)) : Prop :=
  ∀ s a rest, reader s = some (a, rest) → Reads s rest

/-- A digit is a character of addresses. -/
theorem toDigit_mono {radix : Nat} (h : radix ≤ 16) {c : Char}
    (some_ : (toDigit radix c).isSome = true) : isAddressChar c = true := by
  have hex : (toDigit 16 c).isSome = true := by
    unfold toDigit at some_ ⊢
    rw [Option.isSome_filter] at some_ ⊢
    rw [Option.any_eq_true] at some_ ⊢
    obtain ⟨d, digit, lt⟩ := some_
    refine ⟨d, digit, ?_⟩
    rw [decide_eq_true_eq] at lt ⊢
    omega
  rw [isAddressChar, hex]
  rfl

/-- A number reads digits only. -/
theorem readNumber_sound {radix maxDigits max : Nat} {zero : Bool} (h : radix ≤ 16) :
    Sound (readNumber radix maxDigits max zero) := by
  intro s n rest read
  unfold readNumber at read
  dsimp only at read
  split_ifs at read
  cases read
  refine ⟨s.takeWhile (fun c => (toDigit radix c).isSome), ?_, ?_⟩
  · rw [List.takeWhile_append_dropWhile]
  · intro c hc
    exact toDigit_mono h (List.mem_takeWhile_imp (p := fun c => (toDigit radix c).isSome) hc)

/-- A separated part reads its separator and what the part reads. -/
theorem readSeparator_sound {α : Type} {sep : Char} {index : Nat}
    {inner : List Char → Option (α × List Char)} (hsep : isAddressChar sep = true)
    (h : Sound inner) : Sound (readSeparator sep index inner) := by
  intro s a rest read
  unfold readSeparator at read
  split_ifs at read with first
  · exact h s a rest read
  · match s, read with
    | c :: s, read =>
      dsimp only at read
      split_ifs at read with eq
      rw [eq]
      exact Reads.cons hsep (h s a rest read)

/-- An IPv4 address reads digits and dots only. -/
theorem readIpv4Addr_sound : Sound readIpv4Addr := by
  have octet (index : Nat) : Sound (readSeparator '.' index readOctet) :=
    readSeparator_sound (by decide) (readNumber_sound (by decide))
  intro s quad rest read
  unfold readIpv4Addr at read
  simp only [bind, Option.bind_eq_some_iff] at read
  obtain ⟨⟨a, s₁⟩, h₁, ⟨b, s₂⟩, h₂, ⟨c, s₃⟩, h₃, ⟨d, s₄⟩, h₄, last⟩ := read
  cases last
  exact (octet 0 _ _ _ h₁).trans ((octet 1 _ _ _ h₂).trans
    ((octet 2 _ _ _ h₃).trans (octet 3 _ _ _ h₄)))

/-- Groups read digits, colons and dots only. -/
theorem readGroups_reads (limit left : Nat) (s : List Char) :
    Reads s (readGroups limit left s).2.2 := by
  have colon : isAddressChar ':' = true := by decide
  induction left generalizing s with
  | zero => exact Reads.refl s
  | succ left ih =>
    unfold readGroups
    dsimp only
    split
    · rename_i a b c d rest read
      split_ifs at read
      exact readSeparator_sound colon readIpv4Addr_sound _ _ _ read
    · split
      · rename_i g rest read
        have group : Sound readGroup := readNumber_sound (by decide)
        exact (readSeparator_sound colon group _ _ _ read).trans (ih rest)
      · exact Reads.refl s

/-- So does an IPv6 address. -/
theorem readIpv6Addr_sound : Sound readIpv6Addr := by
  intro s groups rest read
  have head := readGroups_reads 8 8 s
  unfold readIpv6Addr at read
  dsimp only at read
  split_ifs at read
  · cases read
    exact head
  · split at read
    · rename_i s' eq
      cases read
      rw [eq] at head
      exact head.trans (Reads.cons (by decide) (Reads.cons (by decide) (readGroups_reads _ _ s')))
    · cases read

/-- So does either. -/
theorem readIpAddr_sound : Sound readIpAddr := by
  intro s ip rest read
  unfold readIpAddr at read
  split at read
  · rename_i v4
    cases read
    exact readIpv4Addr_sound _ _ _ v4
  · obtain ⟨⟨groups, rest'⟩, v6, eq⟩ := Option.map_eq_some_iff.mp read
    cases eq
    exact readIpv6Addr_sound _ _ _ v6

/-- **Only digits, dots and colons make an address.** -/
theorem parse_chars {s : List Char} {ip : IpAddr} (h : parse s = some ip) :
    ∀ c ∈ s, isAddressChar c = true := by
  unfold parse at h
  split at h
  · rename_i ip' read
    obtain ⟨text, rfl, chars⟩ := readIpAddr_sound _ _ _ read
    rw [List.append_nil]
    exact chars
  · cases h

/-- Nothing is no address. -/
theorem parse_nil : parse [] = none := by decide

/-- Such text has nothing to trim. -/
theorem not_isWhitespace {c : Char} (h : isAddressChar c = true) : Text.isWhitespace c = false := by
  unfold isAddressChar at h
  simp only [Bool.or_eq_true, beq_iff_eq] at h
  rcases h with (digit | rfl) | rfl
  · unfold toDigit at digit
    unfold Text.isWhitespace
    rw [Option.isSome_filter, Option.any_eq_true] at digit
    obtain ⟨d, eq, -⟩ := digit
    split_ifs at eq
    · simp
      omega
    · simp
      omega
    · simp
      omega
  · decide
  · decide

end IpAddr

end Netdiag
