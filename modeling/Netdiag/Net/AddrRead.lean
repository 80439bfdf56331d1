import Netdiag.Net.AddrDisplay

namespace Netdiag

/-!
# Addresses — read back

`IpAddr::from_str` reads every address back from its `Display` text.

* `readNumber_toDigits` — the digits of a number, up to something that is no digit.
* `readIpv4Addr_joined` — dotted quads.
* `readGroups_joined` — groups, up to the end of the text or a `::`.
* `IpAddr.parse_display` — every address, in whichever of the forms its text has.
-/

namespace IpAddr

/-! ### Numbers -/

/-- A digit is read back from its character. -/
theorem toDigit_digitChar {radix d : Nat} (h16 : radix ≤ 16) (hd : d < radix) :
    toDigit radix d.digitChar = some d := by
  have hall : ∀ r ≤ 16, ∀ d < r, toDigit r d.digitChar = some d := by decide
  exact hall radix h16 d hd

/-- The next character is not part of a number. -/
def Stops (radix : Nat) (rest : List Char) : Prop := ∀ c ∈ rest.head?, toDigit radix c = none

/-- The end of the text stops a number. -/
theorem stops_nil (radix : Nat) : Stops radix [] := fun c hc => by simp at hc

/-- A character that is no digit stops a number. -/
theorem stops_cons {radix : Nat} {c : Char} (h : toDigit radix c = none) (rest : List Char) :
    Stops radix (c :: rest) := by
  intro d hd
  obtain rfl : c = d := by simpa using hd
  exact h

/-- The digits of a number fold back to it. -/
theorem foldl_toDigits {radix : Nat} (h1 : 1 < radix) (h16 : radix ≤ 16) (n : Nat) :
    (Nat.toDigits radix n).foldl (fun acc c => acc * radix + (toDigit radix c).getD 0) 0 = n := by
  induction n using Nat.strongRecOn with
  | ind n ih =>
    by_cases hn : n < radix
    · rw [Nat.toDigits_of_lt_base hn, List.foldl_cons, List.foldl_nil, toDigit_digitChar h16 hn]
      show 0 * radix + n = n
      omega
    · have hmod : n % radix < radix := Nat.mod_lt n (by omega)
      rw [Nat.toDigits_of_base_le h1 (Nat.not_lt.mp hn), List.foldl_append,
        ih (n / radix) (Nat.div_lt_self (by omega) h1), List.foldl_cons, List.foldl_nil,
        toDigit_digitChar h16 hmod]
      show n / radix * radix + n % radix = n
      exact Nat.div_add_mod' n radix

/-- Only zero itself starts with a zero. -/
theorem head?_toDigits {radix : Nat} (h1 : 1 < radix) (h16 : radix ≤ 16) {n : Nat}
    (hn : n ≠ 0) : (Nat.toDigits radix n).head? ≠ some '0' := by
  have hzero : ∀ d < 16, d ≠ 0 → d.digitChar ≠ '0' := by decide
  induction n using Nat.strongRecOn with
  | ind n ih =>
    by_cases hlt : n < radix
    · rw [Nat.toDigits_of_lt_base hlt, List.head?_cons, ne_eq, Option.some.injEq]
      exact hzero n (by omega) hn
    · have hle := Nat.not_lt.mp hlt
      have hdiv : n / radix ≠ 0 := (Nat.div_pos hle (by omega)).ne'
      rw [Nat.toDigits_of_base_le h1 hle, List.head?_append_of_ne_nil _ Nat.toDigits_ne_nil]
      exact ih (n / radix) (Nat.div_lt_self (by omega) h1) hdiv

/-- A number is read up to where it stops, if it is neither too long nor too large. -/
theorem readNumber_toDigits {radix maxDigits max n : Nat} {zero : Bool} {rest : List Char}
    (h1 : 1 < radix) (h16 : radix ≤ 16) (hn : n ≤ max)
    (hlength : (Nat.toDigits radix n).length ≤ maxDigits) (hrest : Stops radix rest) :
    readNumber radix maxDigits max zero (Nat.toDigits radix n ++ rest) = some (n, rest) := by
  let isDigit : Char → Bool := fun c => (toDigit radix c).isSome
  have hdigits : ∀ c ∈ Nat.toDigits radix n, isDigit c = true := by
    intro c hc
    obtain ⟨d, hd, rfl⟩ := mem_toDigits h1 hc
    show (toDigit radix d.digitChar).isSome = true
    rw [toDigit_digitChar h16 hd]
    rfl
  have hstop : rest.takeWhile isDigit = [] ∧ rest.dropWhile isDigit = rest := by
    cases rest with
    | nil => exact ⟨rfl, rfl⟩
    | cons c rest =>
      have hc : isDigit c = false := by
        show (toDigit radix c).isSome = false
        rw [hrest c (by simp)]
        rfl
      rw [List.takeWhile_cons, List.dropWhile_cons, hc]
      exact ⟨rfl, rfl⟩
  have htake : (Nat.toDigits radix n ++ rest).takeWhile isDigit = Nat.toDigits radix n := by
    rw [List.takeWhile_append_of_pos hdigits, hstop.1, List.append_nil]
  have hdrop : (Nat.toDigits radix n ++ rest).dropWhile isDigit = rest := by
    rw [List.dropWhile_append_of_pos hdigits, hstop.2]
  have hempty : (Nat.toDigits radix n).isEmpty = false :=
    List.isEmpty_eq_false_iff.mpr Nat.toDigits_ne_nil
  unfold readNumber
  dsimp only
  rw [htake, hdrop, foldl_toDigits h1 h16, hempty, if_neg (by simp; omega), if_neg]
  -- a leading zero is the whole number
  by_cases hzero : n = 0
  · subst hzero
    simp [Nat.toDigits_of_lt_base (show 0 < radix by omega)]
  · simp [head?_toDigits h1 h16 hzero]

/-- A decimal octet is read back; no printed octet has a leading zero. -/
theorem readOctet_toDigits {n : Nat} {rest : List Char} (hn : n < 256) (hrest : Stops 10 rest) :
    readOctet (Nat.toDigits 10 n ++ rest) = some (n, rest) := by
  apply readNumber_toDigits (by decide) (by decide) (by omega) _ hrest
  apply (Nat.length_toDigits_le_iff (by decide) (by decide)).mpr
  omega

/-- A hexadecimal group of an IPv6 address is read back. -/
theorem readGroup_toDigits {n : Nat} {rest : List Char} (hn : n < 65536)
    (hrest : Stops 16 rest) : readGroup (Nat.toDigits 16 n ++ rest) = some (n, rest) := by
  apply readNumber_toDigits (by decide) (by decide) (by omega) _ hrest
  apply (Nat.length_toDigits_le_iff (by decide) (by decide)).mpr
  omega

/-! ### Dotted quads -/

/-- Four octets with dots between them are read back as an address. -/
theorem readIpv4Addr_joined {a b c d : Nat} (ha : a < 256) (hb : b < 256) (hc : c < 256)
    (hd : d < 256) {rest : List Char} (hrest : Stops 10 rest) :
    readIpv4Addr (joined '.' 10 [a, b, c, d] ++ rest) = some ((a, b, c, d), rest) := by
  have hdot : ∀ s, Stops 10 ('.' :: s) := stops_cons (by decide)
  have htext : joined '.' 10 [a, b, c, d] ++ rest =
      Nat.toDigits 10 a ++ '.' :: (Nat.toDigits 10 b ++ '.' :: (Nat.toDigits 10 c ++
        '.' :: (Nat.toDigits 10 d ++ rest))) := by
    simp [joined, List.intercalate_cons_cons]
  have hnext : ∀ (i : Nat) (s : List Char), i ≠ 0 →
      readSeparator '.' i readOctet ('.' :: s) = readOctet s := by
    intro i s hi
    unfold readSeparator
    rw [if_neg hi]
    exact if_pos rfl
  have hfirst : ∀ s, readSeparator '.' 0 readOctet s = readOctet s := fun s => if_pos rfl
  unfold readIpv4Addr
  rw [htext, hfirst, readOctet_toDigits ha (hdot _)]
  simp only [bind, Option.bind_some]
  rw [hnext 1 _ (by decide), readOctet_toDigits hb (hdot _)]
  simp only [Option.bind_some]
  rw [hnext 2 _ (by decide), readOctet_toDigits hc (hdot _)]
  simp only [Option.bind_some]
  rw [hnext 3 _ (by decide), readOctet_toDigits hd hrest]
  rfl

/-- No dot behind the first number. -/
theorem readIpv4Addr_eq_none {s : List Char}
    (h : ∀ n rest, readOctet s = some (n, rest) → '.' ∉ rest.head?) : readIpv4Addr s = none := by
  have hfirst : readSeparator '.' 0 readOctet s = readOctet s := if_pos rfl
  unfold readIpv4Addr
  rw [hfirst]
  cases hread : readOctet s with
  | none => rfl
  | some r =>
    obtain ⟨n, rest⟩ := r
    have hhead := h n rest hread
    have hnone : readSeparator '.' 1 readOctet rest = none := by
      unfold readSeparator
      rw [if_neg (by decide)]
      cases rest with
      | nil => rfl
      | cons c rest =>
        have hc : c ≠ '.' := fun eq => hhead (by simp [eq])
        exact if_neg hc
    simp only [bind, Option.bind_some, hnone, Option.bind_none]

/-- Nothing is no IPv4 address. -/
theorem readIpv4Addr_nil : readIpv4Addr [] = none := by decide

/-- Nothing is no group. -/
theorem readGroup_nil : readGroup [] = none := by decide

/-- A colon is no digit of any radix. -/
theorem toDigit_colon (radix : Nat) : toDigit radix ':' = none := rfl

/-- No number starts with a colon. -/
theorem readNumber_colon (radix maxDigits max : Nat) (zero : Bool) (s : List Char) :
    readNumber radix maxDigits max zero (':' :: s) = none := by
  unfold readNumber
  rw [List.takeWhile_cons, toDigit_colon]
  rfl

/-- No IPv4 address starts with a colon. -/
theorem readIpv4Addr_colon (s : List Char) : readIpv4Addr (':' :: s) = none := by
  apply readIpv4Addr_eq_none
  intro n rest hread
  rw [readOctet, readNumber_colon] at hread
  exact absurd hread (by simp)

/-! ### Groups -/

/-- The text ends here or a colon follows. -/
def AtColon (rest : List Char) : Prop := ∀ c ∈ rest.head?, c = ':'

/-- At a colon or at the end every number stops. -/
theorem AtColon.stops {rest : List Char} (h : AtColon rest) (radix : Nat) : Stops radix rest :=
  fun c hc => by rw [h c hc, toDigit_colon]

/-- A group is not the first number of dotted quads. -/
theorem readIpv4Addr_group (n : Nat) {rest : List Char} (hrest : AtColon rest) :
    readIpv4Addr (Nat.toDigits 16 n ++ rest) = none := by
  apply readIpv4Addr_eq_none
  intro m left hread hdot
  let isDigit : Char → Bool := fun c => (toDigit 10 c).isSome
  have hleft : left = (Nat.toDigits 16 n ++ rest).dropWhile isDigit := by
    unfold readOctet readNumber at hread
    dsimp only at hread
    split_ifs at hread
    cases hread
    rfl
  have hkeep : rest.dropWhile isDigit = rest := by
    cases rest with
    | nil => rfl
    | cons c rest =>
      obtain rfl : c = ':' := hrest c (by simp)
      rfl
  rw [hleft, List.dropWhile_append, hkeep] at hdot
  -- what is left starts in the group or behind it
  split at hdot
  · exact absurd (hrest '.' hdot) (by decide)
  · rename_i hsome
    have hne : (Nat.toDigits 16 n).dropWhile isDigit ≠ [] := fun eq => hsome (by rw [eq]; rfl)
    rw [List.head?_append_of_ne_nil _ hne] at hdot
    have hmem := (List.dropWhile_sublist _).subset (List.mem_of_mem_head? hdot)
    exact (not_mem_toDigits (by decide) (by decide) n).1 hmem

/-- Groups that each have a colon before them. -/
def colons (ns : List Nat) : List Char := ns.flatMap (fun n => ':' :: Nat.toDigits 16 n)

/-- A first group, and the others each behind a colon. -/
theorem joined_cons (n : Nat) (ns : List Nat) :
    joined ':' 16 (n :: ns) = Nat.toDigits 16 n ++ colons ns := by
  induction ns generalizing n with
  | nil => simp [joined, colons]
  | cons m ns ih =>
    have htail := ih m
    rw [joined] at htail
    rw [joined, List.map_cons, List.map_cons, List.intercalate_cons_cons, ← List.map_cons, htail]
    simp [colons]

/-- Groups behind colons start with a colon. -/
theorem atColon_colons (ns : List Nat) {rest : List Char} (h : AtColon rest) :
    AtColon (colons ns ++ rest) := by
  cases ns with
  | nil => exact h
  | cons n ns => exact fun c hc => by simpa [colons, eq_comm] using hc

/-- The groups end here: with the text, or at a `::`. -/
def Closed (rest : List Char) : Prop := rest = [] ∨ ∃ s, rest = ':' :: ':' :: s

/-- A closed rest begins with a colon or is empty. -/
theorem Closed.atColon {rest : List Char} (h : Closed rest) : AtColon rest := by
  rcases h with rfl | ⟨s, rfl⟩
  · exact fun c hc => by simp at hc
  · exact fun c hc => by simpa [eq_comm] using hc

/-- Nothing is read behind a separator that does not come. -/
theorem readSeparator_closed {α : Type} {inner : List Char → Option (α × List Char)}
    (hnil : inner [] = none) (hcolon : ∀ s, inner (':' :: s) = none) (i : Nat)
    {rest : List Char} (h : Closed rest) : readSeparator ':' i inner rest = none := by
  unfold readSeparator
  rcases h with rfl | ⟨s, rfl⟩
  · split
    · exact hnil
    · rfl
  · split
    · exact hcolon _
    · exact (if_pos rfl).trans (hcolon s)

/-- No group is read where the groups are over. -/
theorem readGroups_closed (limit left : Nat) {rest : List Char} (h : Closed rest) :
    readGroups limit left rest = ([], false, rest) := by
  cases left with
  | zero => rfl
  | succ left =>
    have hquads := readSeparator_closed readIpv4Addr_nil readIpv4Addr_colon
      (limit - (left + 1)) h
    have hgroup := readSeparator_closed readGroup_nil (readNumber_colon 16 4 65535 true)
      (limit - (left + 1)) h
    unfold readGroups
    simp only [hquads, hgroup, ite_self]

/-- The text of an element at its place. -/
def atIndex (i : Nat) (text : List Char) : List Char := if i = 0 then text else ':' :: text

/-- The separator is expected before every part but the first. -/
theorem readSeparator_atIndex {α : Type} (inner : List Char → Option (α × List Char)) (i : Nat)
    (text : List Char) : readSeparator ':' i inner (atIndex i text) = inner text := by
  unfold readSeparator atIndex
  by_cases hi : i = 0
  · rw [if_pos hi, if_pos hi]
  · rw [if_neg hi, if_neg hi]
    exact if_pos rfl

/-- One group. -/
theorem readGroups_group (limit left : Nat) {n : Nat} (hn : n < 65536) {rest : List Char}
    (hrest : AtColon rest) :
    readGroups limit (left + 1)
        (atIndex (limit - (left + 1)) (Nat.toDigits 16 n ++ rest)) =
      (n :: (readGroups limit left rest).1, (readGroups limit left rest).2) := by
  have hquads := readIpv4Addr_group n hrest
  have hgroup := readGroup_toDigits hn (hrest.stops 16)
  rw [readGroups]
  simp only [readSeparator_atIndex, hquads, hgroup, ite_self]

/-- Groups behind colons are read until the limit or the end of them. -/
theorem readGroups_colons (limit left : Nat) {ns : List Nat} (hns : ∀ n ∈ ns, n < 65536)
    (hleft : left < limit) (hlength : ns.length ≤ left) {rest : List Char} (h : Closed rest) :
    readGroups limit left (colons ns ++ rest) = (ns, false, rest) := by
  induction ns generalizing left with
  | nil => exact readGroups_closed limit left h
  | cons n ns ih =>
    obtain ⟨left, rfl⟩ : ∃ k, left = k + 1 := ⟨left - 1, by simp at hlength; omega⟩
    have htext : colons (n :: ns) ++ rest =
        atIndex (limit - (left + 1)) (Nat.toDigits 16 n ++ (colons ns ++ rest)) := by
      rw [atIndex, if_neg (by omega)]
      simp [colons]
    have hrest := ih left (fun m hm => hns m (List.mem_cons_of_mem _ hm)) (by omega)
      (by simpa using hlength)
    rw [htext, readGroups_group limit left (hns n List.mem_cons_self)
      (atColon_colons ns h.atColon), hrest]

/-- Groups joined by colons are read back. -/
theorem readGroups_joined (limit : Nat) {ns : List Nat} (hns : ∀ n ∈ ns, n < 65536)
    (hlength : ns.length ≤ limit) {rest : List Char} (h : Closed rest) :
    readGroups limit limit (joined ':' 16 ns ++ rest) = (ns, false, rest) := by
  cases ns with
  | nil => exact readGroups_closed limit limit h
  | cons n ns =>
    obtain ⟨limit, rfl⟩ : ∃ k, limit = k + 1 := ⟨limit - 1, by simp at hlength; omega⟩
    have htext : joined ':' 16 (n :: ns) ++ rest =
        atIndex (limit + 1 - (limit + 1)) (Nat.toDigits 16 n ++ (colons ns ++ rest)) := by
      rw [joined_cons, Nat.sub_self, atIndex, if_pos rfl, List.append_assoc]
    have hrest := readGroups_colons (limit + 1) limit
      (fun m hm => hns m (List.mem_cons_of_mem _ hm)) (by omega) (by simpa using hlength) h
    rw [htext, readGroups_group _ limit (hns n List.mem_cons_self)
      (atColon_colons ns h.atColon), hrest]

/-! ### Whole addresses -/

/-- The value of dotted quads. -/
theorem ofNat_quads (bits : BitVec 32) {a b c d : Nat} (h : quads bits = [a, b, c, d]) :
    BitVec.ofNat 32 (((a * 256 + b) * 256 + c) * 256 + d) = bits := by
  simp only [quads, List.map_cons, List.map_nil, List.cons.injEq, and_true,
    BitVec.toNat_ushiftRight, Nat.shiftRight_eq_div_pow] at h
  obtain ⟨rfl, rfl, rfl, rfl⟩ := h
  apply BitVec.eq_of_toNat_eq
  have := bits.isLt
  rw [BitVec.toNat_ofNat]
  omega

/-- The value of eight groups. -/
theorem ofNat_segments (bits : BitVec 128) :
    BitVec.ofNat 128 ((segments bits).foldl (fun acc g => acc * 65536 + g) 0) = bits := by
  have hstep : ∀ k, bits.toNat / 2 ^ (k + 16) * 65536 + bits.toNat / 2 ^ k % 65536 =
      bits.toNat / 2 ^ k := by
    intro k
    have hsplit : bits.toNat / 2 ^ (k + 16) = bits.toNat / 2 ^ k / 65536 := by
      rw [Nat.pow_add, Nat.div_div_eq_div_mul]
    rw [hsplit]
    exact Nat.div_add_mod' _ _
  have hhigh : bits.toNat / 2 ^ (112 + 16) = 0 := Nat.div_eq_of_lt bits.isLt
  have hfirst : 0 * 65536 + bits.toNat / 2 ^ 112 % 65536 = bits.toNat / 2 ^ 112 :=
    hhigh ▸ hstep 112
  have hfold : (segments bits).foldl (fun acc g => acc * 65536 + g) 0 = bits.toNat := by
    simp only [segments, List.map_cons, List.map_nil, List.foldl_cons, List.foldl_nil,
      BitVec.toNat_ushiftRight, Nat.shiftRight_eq_div_pow]
    rw [hfirst, hstep 96, hstep 80, hstep 64, hstep 48, hstep 32, hstep 16, hstep 0,
      Nat.pow_zero, Nat.div_one]
  rw [hfold]
  exact BitVec.ofNat_toNat 128 bits

/-- Each segment of an address has sixteen bits. -/
theorem segments_lt (bits : BitVec 128) : ∀ n ∈ segments bits, n < 65536 := by
  intro n hn
  obtain ⟨k, -, rfl⟩ := List.mem_map.mp hn
  exact Nat.mod_lt _ (by decide)

/-- The four octets of an IPv4 address are octets. -/
theorem quads_lt (bits : BitVec 32) : ∃ a b c d, quads bits = [a, b, c, d] ∧
    a < 256 ∧ b < 256 ∧ c < 256 ∧ d < 256 :=
  ⟨_, _, _, _, rfl, Nat.mod_lt _ (by decide), Nat.mod_lt _ (by decide),
    Nat.mod_lt _ (by decide), Nat.mod_lt _ (by decide)⟩

/-- Eight groups written out. -/
theorem readIpv6Addr_full (bits : BitVec 128) :
    readIpv6Addr (joined ':' 16 (segments bits)) = some (segments bits, []) := by
  have hread := readGroups_joined 8 (segments_lt bits) (by simp [segments]) (.inl rfl)
  rw [List.append_nil] at hread
  unfold readIpv6Addr
  rw [hread]
  exact if_pos rfl

/-- Groups, `::`, and what follows it. -/
theorem readIpv6Addr_of_colons {s text rest : List Char} {left right : List Nat} {ipv4 : Bool}
    (hleft : readGroups 8 8 s = (left, false, ':' :: ':' :: text)) (hlength : left.length < 8)
    (hright : readGroups (8 - (left.length + 1)) (8 - (left.length + 1)) text =
      (right, ipv4, rest)) :
    readIpv6Addr s =
      some (left ++ List.replicate (8 - left.length - right.length) 0 ++ right, rest) := by
  unfold readIpv6Addr
  rw [hleft]
  dsimp only
  rw [if_neg (by omega), if_neg (by decide)]
  simp only [hright]

/-- Groups on both sides of `::`. -/
theorem readIpv6Addr_compressed {left right : List Nat} (hleft : ∀ n ∈ left, n < 65536)
    (hright : ∀ n ∈ right, n < 65536) (hlength : left.length + right.length < 8) :
    readIpv6Addr (joined ':' 16 left ++ ':' :: ':' :: joined ':' 16 right) =
      some (left ++ List.replicate (8 - left.length - right.length) 0 ++ right, []) := by
  have htail := readGroups_joined (8 - (left.length + 1)) hright (by omega) (.inl rfl)
  rw [List.append_nil] at htail
  exact readIpv6Addr_of_colons (readGroups_joined 8 hleft (by omega) (.inr ⟨_, rfl⟩)) (by omega)
    htail

/-- The last two segments of a mapped address are its IPv4 octets, two by two. -/
theorem drop_segments_mapped (bits : BitVec 128) {a b c d : Nat}
    (h : quads (bits.setWidth 32) = [a, b, c, d]) :
    (segments bits).drop 6 = [a * 256 + b, c * 256 + d] := by
  simp only [quads, List.map_cons, List.map_nil, List.cons.injEq, and_true,
    BitVec.toNat_ushiftRight, BitVec.toNat_setWidth, Nat.shiftRight_eq_div_pow] at h
  obtain ⟨rfl, rfl, rfl, rfl⟩ := h
  simp only [segments, List.map_cons, List.map_nil, List.drop_succ_cons, List.drop_zero,
    BitVec.toNat_ushiftRight, Nat.shiftRight_eq_div_pow, List.cons.injEq, and_true]
  omega

/-- `::ffff:` and dotted quads. -/
theorem readIpv6Addr_mapped {bits : BitVec 128} (h : Mapped bits) :
    readIpv6Addr (displayV6 bits).toList = some (segments bits, []) := by
  obtain ⟨a, b, c, d, hquads, ha, hb, hc, hd⟩ := quads_lt (bits.setWidth 32)
  have hread := readIpv4Addr_joined ha hb hc hd (stops_nil 10)
  rw [List.append_nil] at hread
  -- the group `ffff`, and the quads in the place of two more
  have hquad : readGroups 7 6 (':' :: joined '.' 10 [a, b, c, d]) =
      ([a * 256 + b, c * 256 + d], true, []) := by
    have hat := readSeparator_atIndex readIpv4Addr 1 (joined '.' 10 [a, b, c, d])
    rw [atIndex, if_neg (by decide), hread] at hat
    rw [readGroups]
    simp only [Nat.reduceAdd, Nat.reduceSub, hat, show (1 : Nat) < 6 by decide, if_true]
  have htail := readGroups_group 7 6 (show 65535 < 65536 by decide)
    (show AtColon (':' :: joined '.' 10 [a, b, c, d]) from fun c hc => by simpa [eq_comm] using hc)
  rw [hquad] at htail
  have hffff : Nat.toDigits 16 65535 = ['f', 'f', 'f', 'f'] := by decide
  have htext : "::ffff:".toList ++ joined '.' 10 [a, b, c, d] =
      ':' :: ':' :: (['f', 'f', 'f', 'f'] ++ ':' :: joined '.' 10 [a, b, c, d]) := rfl
  have hhead := readGroups_closed 8 8 (.inr ⟨_, htext⟩)
  rw [htext] at hhead
  have hgroups : segments bits = [0, 0, 0, 0, 0, 65535] ++ [a * 256 + b, c * 256 + d] := by
    rw [← drop_segments_mapped bits hquads, ← h, List.take_append_drop]
  rw [hffff, Nat.sub_self, atIndex, if_pos rfl] at htail
  rw [displayV6_mapped h, hquads, hgroups, htext]
  exact readIpv6Addr_of_colons hhead (by decide) htail

/-- A text of groups is not dotted quads. -/
theorem readIpv4Addr_groups (groups : List Nat) {rest : List Char} (h : Closed rest) :
    readIpv4Addr (joined ':' 16 groups ++ rest) = none := by
  cases groups with
  | nil =>
    rcases h with rfl | ⟨s, rfl⟩
    · exact readIpv4Addr_nil
    · exact readIpv4Addr_colon _
  | cons n ns =>
    rw [joined_cons, List.append_assoc]
    exact readIpv4Addr_group n (atColon_colons ns h.atColon)

/-- What is no IPv4 address is read as the IPv6 address it is. -/
theorem readIpAddr_v6 {text : List Char} {bits : BitVec 128} (h4 : readIpv4Addr text = none)
    (h6 : readIpv6Addr text = some (segments bits, [])) :
    readIpAddr text = some (.v6 bits, []) := by
  unfold readIpAddr
  rw [h4, h6]
  show some (IpAddr.v6 (BitVec.ofNat 128 _), []) = _
  rw [ofNat_segments]

/-- Every IPv6 address is read back from the way it is displayed. -/
theorem readIpAddr_displayV6 (bits : BitVec 128) :
    readIpAddr (displayV6 bits).toList = some (.v6 bits, []) := by
  -- As dotted quad behind `::ffff:`, with the longest run of zeroes left out, or in full.
  by_cases h : Mapped bits
  · apply readIpAddr_v6 _ (readIpv6Addr_mapped h)
    rw [displayV6_mapped h]
    exact readIpv4Addr_colon _
  · have hrun := longestZeroes_spec (segments bits)
    have hlength : (segments bits).length = 8 := rfl
    rw [displayV6_eq h]
    dsimp only
    generalize longestZeroes (segments bits) = run at hrun ⊢
    split
    · rename_i hlong
      have hcolons : "::".toList = [':', ':'] := rfl
      have hend := hrun.1
      have hleft : ∀ n ∈ (segments bits).take run.1, n < 65536 := fun n hn =>
        segments_lt bits n (List.mem_of_mem_take hn)
      have hright : ∀ n ∈ (segments bits).drop (run.1 + run.2), n < 65536 := fun n hn =>
        segments_lt bits n (List.mem_of_mem_drop hn)
      -- The groups left out are as many as the reader fills in.
      have hread := readIpv6Addr_compressed hleft hright (by
        rw [List.length_take, List.length_drop]
        omega)
      have hcount : 8 - ((segments bits).take run.1).length -
          ((segments bits).drop (run.1 + run.2)).length = run.2 := by
        rw [List.length_take, List.length_drop]
        omega
      rw [hcount, List.append_assoc, hrun.split] at hread
      rw [String.toList_append, String.toList_append, toList_displaySegments,
        toList_displaySegments, hcolons, List.append_assoc, List.cons_append,
        List.singleton_append]
      exact readIpAddr_v6 (readIpv4Addr_groups _ (.inr ⟨_, rfl⟩)) hread
    · rw [toList_displaySegments]
      have hquads := readIpv4Addr_groups (segments bits) (.inl rfl)
      rw [List.append_nil] at hquads
      exact readIpAddr_v6 hquads (readIpv6Addr_full bits)

/-- **An address is read back from its text.** -/
theorem parse_display (ip : IpAddr) : parse ip.display.toList = some ip := by
  have hread : readIpAddr ip.display.toList = some (ip, []) := by
    cases ip with
    | v4 bits =>
      obtain ⟨a, b, c, d, hquads, ha, hb, hc, hd⟩ := quads_lt bits
      have h4 := readIpv4Addr_joined ha hb hc hd (stops_nil 10)
      rw [List.append_nil, ← hquads] at h4
      show readIpAddr (displayV4 bits).toList = _
      unfold readIpAddr
      rw [toList_displayV4, h4]
      dsimp only
      rw [ofNat_quads bits hquads]
    | v6 bits => exact readIpAddr_displayV6 bits
  unfold parse
  rw [hread]

/-- Nothing in the text of an address ends it early. -/
theorem not_mem_display {c : Char} (h : isAddressChar c = false) (ip : IpAddr) :
    c ∉ ip.display.toList := by
  intro hc
  rw [parse_chars (parse_display ip) c hc] at h
  exact absurd h (by decide)

end IpAddr

end Netdiag
