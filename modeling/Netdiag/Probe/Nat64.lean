import Netdiag.Probe.Dns

namespace Netdiag.Probe.Dns

/-!
# Probes — NAT64 prefixes

`extract_nat64_prefix` against RFC 6052: an IPv4 address embedded under a prefix of 32, 40,
48, 56, 64 or 96 bits follows the prefix, around octet 8, which is zero for every length
below 96.

* `rfc6052` — the embedding, written out octet by octet.
* `Embeds` — an address embeds one of the well-known addresses under a prefix.
* `extractNat64Prefix_eq` — what the search over the layouts finds, layout by layout.
* `recovers_iff` — the addresses for which the search finds what is embedded.
-/

/-! ### Octets and bit vectors -/

/-- Octet `i` of an address. -/
def octet (a : BitVec 128) (i : Nat) : BitVec 8 := (a >>> (8 * (15 - i))).setWidth 8

/-- An address has sixteen octets. -/
theorem octets_eq (a : BitVec 128) :
    octets a = [octet a 0, octet a 1, octet a 2, octet a 3, octet a 4, octet a 5, octet a 6,
      octet a 7, octet a 8, octet a 9, octet a 10, octet a 11, octet a 12, octet a 13,
      octet a 14, octet a 15] := rfl

/-- They are listed in order. -/
theorem octets_eq_map (a : BitVec 128) : octets a = (List.range 16).map (octet a) := rfl

/-- The octets from the last one on. -/
theorem getD_reverse_octets (a : BitVec 128) {k : Nat} (hk : k < 16) :
    (octets a).reverse.getD k 0 = (a >>> (8 * k)).setWidth 8 := by
  have hlen : (octets a).length = 16 := rfl
  have hback : 15 - (15 - k) = k := by omega
  rw [List.getD_eq_getElem?_getD, List.getElem?_reverse (by omega), hlen, octets_eq_map,
    List.getElem?_map, List.getElem?_range (by omega)]
  show (a >>> (8 * (15 - (15 - k)))).setWidth 8 = _
  rw [hback]

/-- An address is determined by its octets. -/
theorem octets_injective {a b : BitVec 128} (h : octets a = octets b) : a = b := by
  have hback (a : BitVec 128) : ofBytes 128 (octets a) = a :=
    ofBytes_eq (fun k hk => getD_reverse_octets a (by omega))
  rw [← hback a, h, hback]

/-- Sixteen bytes are the octets of the address they make up. -/
theorem octets_ofBytes {bs : List (BitVec 8)} (hlen : bs.length = 16) :
    octets (ofBytes 128 bs) = bs := by
  apply List.ext_getElem
  · simp [octets, hlen]
  · intro i hi hi'
    have hback : bs.length - 1 - (15 - i) = i := by omega
    have hrev : bs.reverse.getD (15 - i) 0 = bs[i] := by
      rw [List.getD_eq_getElem?_getD, List.getElem?_reverse (by omega), hback]
      simp [hi']
    simp only [octets_eq_map, List.getElem_map, List.getElem_range]
    rw [octet, ofBytes_shift bs (by omega), hrev]

/-! ### The embedding -/

/-- The lengths RFC 6052 defines. -/
def nat64Lengths : List Nat := [32, 40, 48, 56, 64, 96]

/-- The octets of an address that embeds `v4` under a prefix of `len` bits: the prefix, the
    IPv4 address and a suffix, which is ignored, with octet 8 zero for lengths below 96. -/
def rfc6052 (len : Nat) (net v4 suffix : List (BitVec 8)) : List (BitVec 8) :=
  let body := net.take (len / 8) ++ v4 ++ suffix
  if len < 96 then body.insertIdx 8 0 else body

/-- `a` is the RFC 6052 embedding of a well-known address under the prefix `p` of `len` bits. -/
structure Embeds (a p : BitVec 128) (len : Nat) : Prop where
  standard : len ∈ nat64Lengths
  net : ∀ o ∈ (octets p).drop (len / 8), o = 0
  address : ∃ v4 ∈ wka, ∃ suffix, octets a = rfc6052 len (octets p) v4 suffix

/-- Where the layout for `len` bits places the IPv4 address. -/
def layout : Nat → List Nat
  | 32 => [4, 5, 6, 7]
  | 40 => [5, 6, 7, 9]
  | 48 => [6, 7, 9, 10]
  | 56 => [7, 9, 10, 11]
  | 64 => [9, 10, 11, 12]
  | 96 => [12, 13, 14, 15]
  | _ => []

/-- The octets of `a` in the places of the layout for `len` bits are a well-known address. -/
def Holds (a : BitVec 128) (len : Nat) : Prop := (layout len).map (octet a) ∈ wka

instance (a : BitVec 128) (len : Nat) : Decidable (Holds a len) :=
  inferInstanceAs (Decidable (_ ∈ wka))

/-- The first `len` bits of an address. -/
def cut (a : BitVec 128) (len : Nat) : BitVec 128 :=
  ofBytes 128 ((octets a).zipIdx.map (fun o => if o.2 < len / 8 then o.1 else 0))

/-- Cutting an address to a prefix clears the octets behind it. -/
theorem octets_cut (a : BitVec 128) (len : Nat) :
    octets (cut a len) = (octets a).zipIdx.map (fun o => if o.2 < len / 8 then o.1 else 0) :=
  octets_ofBytes (by simp [octets])

/-- The well-known addresses are 192.0.0.170 and 192.0.0.171. -/
theorem mem_wka {w x y z : BitVec 8} :
    [w, x, y, z] ∈ wka ↔ w = 192 ∧ x = 0 ∧ y = 0 ∧ (z = 170 ∨ z = 171) := by
  simp only [wka, List.mem_cons, List.cons.injEq, List.not_mem_nil, or_false, and_true]
  constructor
  · rintro (⟨rfl, rfl, rfl, rfl⟩ | ⟨rfl, rfl, rfl, rfl⟩) <;> simp
  · rintro ⟨rfl, rfl, rfl, rfl | rfl⟩ <;> simp

/-- A well-known address has four octets. -/
theorem exists_of_mem_wka {v4 : List (BitVec 8)} (h : v4 ∈ wka) :
    ∃ w x y z, v4 = [w, x, y, z] := by
  simp only [wka, List.mem_cons, List.not_mem_nil, or_false] at h
  rcases h with rfl | rfl <;> exact ⟨_, _, _, _, rfl⟩

/-- The embedding read back: the layout holds the address, octet 8 is zero for lengths below
    96, and the prefix is the first `len` bits. -/
theorem embeds_iff (a p : BitVec 128) (len : Nat) :
    Embeds a p len ↔
      len ∈ nat64Lengths ∧ p = cut a len ∧ Holds a len ∧ (len < 96 → octet a 8 = 0) := by
  have hsixteen : ∀ b c : BitVec 128, octets b = octets c ↔ b = c :=
    fun b c => ⟨octets_injective, congrArg octets⟩
  rw [← hsixteen p, octets_cut]
  constructor
  · rintro ⟨hstd, hnet, v4, hv4, suffix, h⟩
    refine ⟨hstd, ?_⟩
    obtain ⟨w, x, y, z, rfl⟩ := exists_of_mem_wka hv4
    simp only [nat64Lengths, List.mem_cons, List.not_mem_nil, or_false] at hstd
    -- In each layout the sixteen octets line up one by one.
    rcases hstd with rfl | rfl | rfl | rfl | rfl | rfl <;>
      simp [octets_eq, rfc6052, Holds, layout] at h hnet ⊢ <;> grind
  · rintro ⟨hstd, hp, hv4, hzero⟩
    refine ⟨hstd, ?_, _, hv4, (octets a).drop (if len < 96 then len / 8 + 5 else 16), ?_⟩
    all_goals
      simp only [nat64Lengths, List.mem_cons, List.not_mem_nil, or_false] at hstd
      rcases hstd with rfl | rfl | rfl | rfl | rfl | rfl <;>
        simp [octets_eq, rfc6052, layout] at hp hzero ⊢ <;> grind

/-! ### The search -/

/-- One step of the search: a variant whose four places hold a well-known address ends it. -/
theorem extract_variant (a : BitVec 128) (offset prefixLen len : Nat)
    (hplaces : embedded (octets a) offset prefixLen = (layout len).map (octet a))
    (hfour : (layout len).length = 4) :
    (if (embedded (octets a) offset prefixLen).length < 4 then none
      else if wka.contains (embedded (octets a) offset prefixLen) then
        some (cut a prefixLen, prefixLen)
      else none) =
      if Holds a len then some (cut a prefixLen, prefixLen) else none := by
  by_cases h : (layout len).map (octet a) ∈ wka <;> simp [hplaces, hfour, Holds, h]

/-- What the search finds.  The fourth variant starts at octet 8 and not at octet 7, so it
    reads the places of the 64 bit layout. -/
theorem extractNat64Prefix_eq (a : BitVec 128) :
    extractNat64Prefix a =
      if Holds a 32 then some (cut a 32, 32)
      else if Holds a 40 then some (cut a 40, 40)
      else if Holds a 48 then some (cut a 48, 48)
      else if Holds a 64 then some (cut a 56, 56)
      else if Holds a 96 then some (cut a 96, 96)
      else none := by
  have h32 := extract_variant a 4 32 32 rfl rfl
  have h40 := extract_variant a 5 40 40 rfl rfl
  have h48 := extract_variant a 6 48 48 rfl rfl
  have h56 := extract_variant a 8 56 64 rfl rfl
  have h64 := extract_variant a 9 64 64 rfl rfl
  have h96 := extract_variant a 12 96 96 rfl rfl
  unfold cut at h32 h40 h48 h56 h64 h96
  unfold extractNat64Prefix cut
  simp only [List.findSome?_cons, List.findSome?_nil, h32, h40, h48, h56, h64, h96]
  grind

/-- The places of the 64 bit layout and those of the 40, 48 and 56 bit ones meet in octet 9,
    which opens an address in the first and does not in the others. -/
theorem not_holds_of_64 {a : BitVec 128} (h : Holds a 64) :
    ¬Holds a 40 ∧ ¬Holds a 48 ∧ ¬Holds a 56 := by
  simp only [Holds, layout, List.map_cons, List.map_nil, mem_wka] at h ⊢
  refine ⟨?_, ?_, ?_⟩ <;> (intro h'; simp_all)

/-- The places of the 56 bit layout start at octet 7, which does not open an address in the
    shorter layouts. -/
theorem not_holds_of_56 {a : BitVec 128} (h : Holds a 56) :
    ¬Holds a 32 ∧ ¬Holds a 40 ∧ ¬Holds a 48 := by
  simp only [Holds, layout, List.map_cons, List.map_nil, mem_wka] at h ⊢
  refine ⟨?_, ?_, ?_⟩ <;> (intro h'; simp_all)

/-! ### When the prefix is recovered -/

/-- What the probe needs of the search: what it returns is embedded in the address, it
    returns something whenever there is something embedded, and it returns that prefix
    when no other layout matches. -/
structure Recovers (a : BitVec 128) : Prop where
  sound : ∀ p len, extractNat64Prefix a = some (p, len) → Embeds a p len
  complete : ∀ p len, Embeds a p len → (extractNat64Prefix a).isSome
  unique : ∀ p len, Embeds a p len → (∀ p' len', Embeds a p' len' → len' = len) →
    extractNat64Prefix a = some (p, len)

/-- The addresses the table of variants is right about: octet 8 is zero where the first three
    layouts hold an address, the 64 bit layout holds one only where the 32 bit one does too,
    and an embedding under 56 bits is found by the 96 bit layout. -/
def Recoverable (a : BitVec 128) : Prop :=
  (Holds a 32 ∨ Holds a 40 ∨ Holds a 48 → octet a 8 = 0) ∧ (Holds a 64 → Holds a 32) ∧
    (Holds a 56 ∧ octet a 8 = 0 → Holds a 96)

/-- Where a layout holds an address and octet 8 allows it, the first bits are its prefix. -/
theorem Holds.embeds {a : BitVec 128} {len : Nat} (h : Holds a len)
    (hstd : len ∈ nat64Lengths) (hzero : len < 96 → octet a 8 = 0) : Embeds a (cut a len) len :=
  (embeds_iff a _ len).mpr ⟨hstd, rfl, h, hzero⟩

/-- Where the search does what the probe needs, the table is right about the address. -/
theorem Recovers.recoverable {a : BitVec 128} (h : Recovers a) : Recoverable a := by
  have hfound : ∀ len, extractNat64Prefix a = some (cut a len, len) →
      Holds a len ∧ (len < 96 → octet a 8 = 0) := fun len heq =>
    ((embeds_iff a _ len).mp (h.sound _ len heq)).2.2
  refine ⟨?_, ?_, ?_⟩
  · intro hshort
    by_cases h32 : Holds a 32
    · exact (hfound 32 (by simp [extractNat64Prefix_eq, h32])).2 (by decide)
    by_cases h40 : Holds a 40
    · exact (hfound 40 (by simp [extractNat64Prefix_eq, h32, h40])).2 (by decide)
    have h48 : Holds a 48 := by simpa only [h32, h40, false_or] using hshort
    exact (hfound 48 (by simp [extractNat64Prefix_eq, h32, h40, h48])).2 (by decide)
  · intro h64
    obtain ⟨h40, h48, h56⟩ := not_holds_of_64 h64
    by_contra h32
    exact h56 (hfound 56 (by simp [extractNat64Prefix_eq, h32, h40, h48, h64])).1
  · rintro ⟨h56, hzero⟩
    obtain ⟨h32, h40, h48⟩ := not_holds_of_56 h56
    have h64 : ¬Holds a 64 := fun h64 => (not_holds_of_64 h64).2.2 h56
    have hsome := h.complete _ 56 (h56.embeds (by decide) (fun _ => hzero))
    by_contra h96
    simp [extractNat64Prefix_eq, h32, h40, h48, h64, h96] at hsome

/-- The prefix that is found embeds a well-known address. -/
theorem Recoverable.sound {a : BitVec 128} (h : Recoverable a) {p : BitVec 128} {len : Nat}
    (hfound : extractNat64Prefix a = some (p, len)) : Embeds a p len := by
  obtain ⟨hzero, h64, -⟩ := h
  rw [extractNat64Prefix_eq] at hfound
  split_ifs at hfound with h32 h40 h48 h56 h96
  · cases hfound
    exact h32.embeds (by decide) (fun _ => hzero (.inl h32))
  · cases hfound
    exact h40.embeds (by decide) (fun _ => hzero (.inr (.inl h40)))
  · cases hfound
    exact h48.embeds (by decide) (fun _ => hzero (.inr (.inr h48)))
  · exact absurd (h64 h56) h32
  · cases hfound
    exact h96.embeds (by decide) (fun hlt => absurd hlt (by decide))

/-- Where some prefix embeds one, one is found. -/
theorem Recoverable.complete {a : BitVec 128} (h : Recoverable a) {p : BitVec 128} {len : Nat}
    (hembeds : Embeds a p len) : (extractNat64Prefix a).isSome := by
  obtain ⟨hstd, -, hholds, hzero⟩ := (embeds_iff a p len).mp hembeds
  simp only [nat64Lengths, List.mem_cons, List.not_mem_nil, or_false] at hstd
  have h96 : len = 56 → Holds a 96 := by
    rintro rfl
    exact h.2.2 ⟨hholds, hzero (by decide)⟩
  rw [extractNat64Prefix_eq]
  -- Every layout but that of 56 bits is searched.
  rcases hstd with rfl | rfl | rfl | rfl | rfl | rfl <;> grind

/-- The search finds what is embedded exactly for these addresses. -/
theorem recovers_iff (a : BitVec 128) : Recovers a ↔ Recoverable a := by
  refine ⟨Recovers.recoverable, fun h => ⟨fun _ _ => h.sound, fun _ _ => h.complete, ?_⟩⟩
  intro p len hembeds honly
  obtain ⟨⟨q, len'⟩, hfound⟩ := Option.isSome_iff_exists.mp (h.complete hembeds)
  have hq := h.sound hfound
  obtain rfl := honly q len' hq
  rw [hfound, ((embeds_iff a q len').mp hq).2.1, ((embeds_iff a p len').mp hembeds).2.1]

/-- The address that embeds 192.0.0.170 under 2001:db8:122:300::/56. -/
theorem not_recovers_56 : ¬Recovers 0x20010db8012203c0000000aa00000000#128 := by
  intro h
  have hembeds : Embeds 0x20010db8012203c0000000aa00000000#128
      0x20010db8012203000000000000000000#128 56 :=
    ⟨by decide, by decide +kernel, _, List.mem_cons_self, [0, 0, 0, 0], by decide +kernel⟩
  have hnone : extractNat64Prefix 0x20010db8012203c0000000aa00000000#128 = none := by decide +kernel
  simpa [hnone] using h.complete _ _ hembeds

end Netdiag.Probe.Dns
