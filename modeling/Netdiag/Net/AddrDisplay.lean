import Netdiag.Net.AddrText

namespace Netdiag

/-!
# Addresses — distinct texts

`Display` of `IpAddr` gives different addresses different texts, so a map keyed by the text of
an address is keyed by the address.

* `toDigits_injective` — numbers in a base up to 16 have one text.
* `longestZeroes_spec` — the run that `::` stands for consists of zeroes.
* `expand` — the groups of a text, those behind `::` put back.
* `IpAddr.display_injective` — an address is determined by its text.
-/

namespace IpAddr

/-! ### Digits -/

/-- Different digits are different characters. -/
theorem digitChar_injective {a b : Nat} (ha : a < 16) (hb : b < 16)
    (h : a.digitChar = b.digitChar) : a = b := by
  have hall : ∀ a < 16, ∀ b < 16, a.digitChar = b.digitChar → a = b := by decide
  exact hall a ha b hb h

/-- Different numbers have different digits. -/
theorem toDigits_injective {base : Nat} (h1 : 1 < base) (h16 : base ≤ 16) {m n : Nat}
    (h : Nat.toDigits base m = Nat.toDigits base n) : m = n := by
  induction m using Nat.strongRecOn generalizing n with
  | ind m ih =>
    -- A number of one digit and one of several are told apart by length.
    have hlen : ∀ k, ¬k < base → 2 ≤ (Nat.toDigits base k).length := by
      intro k hk
      have := Nat.length_toDigits_pos (b := base) (n := k / base)
      rw [Nat.toDigits_of_base_le h1 (by omega), List.length_append, List.length_singleton]
      omega
    by_cases hm : m < base
    · by_cases hn : n < base
      · rw [Nat.toDigits_of_lt_base hm, Nat.toDigits_of_lt_base hn, List.singleton_inj] at h
        exact digitChar_injective (by omega) (by omega) h
      · have := hlen n hn
        rw [← h, Nat.toDigits_of_lt_base hm, List.length_singleton] at this
        omega
    · by_cases hn : n < base
      · have := hlen m hm
        rw [h, Nat.toDigits_of_lt_base hn, List.length_singleton] at this
        omega
      · rw [Nat.toDigits_of_base_le h1 (Nat.not_lt.mp hm),
          Nat.toDigits_of_base_le h1 (Nat.not_lt.mp hn)] at h
        obtain ⟨hhigh, hlow⟩ := List.append_inj' h rfl
        have hdiv := ih (m / base) (Nat.div_lt_self (by omega) h1) hhigh
        have hmod : m % base = n % base :=
          digitChar_injective ((Nat.mod_lt m (by omega)).trans_le h16)
            ((Nat.mod_lt n (by omega)).trans_le h16) (List.singleton_inj.mp hlow)
        rw [← Nat.div_add_mod m base, ← Nat.div_add_mod n base, hdiv, hmod]

/-- What stands in the digits of a number is a digit. -/
theorem mem_toDigits {base : Nat} (h1 : 1 < base) {n : Nat} {c : Char}
    (h : c ∈ Nat.toDigits base n) : ∃ d < base, c = d.digitChar := by
  induction n using Nat.strongRecOn with
  | ind n ih =>
    by_cases hn : n < base
    · rw [Nat.toDigits_of_lt_base hn, List.mem_singleton] at h
      exact ⟨n, hn, h⟩
    · rw [Nat.toDigits_of_base_le h1 (Nat.not_lt.mp hn), List.mem_append, List.mem_singleton] at h
      rcases h with h | h
      · exact ih (n / base) (Nat.div_lt_self (by omega) h1) h
      · exact ⟨n % base, Nat.mod_lt n (by omega), h⟩

/-- No digit is a dot or a colon. -/
theorem not_mem_toDigits {base : Nat} (h1 : 1 < base) (h16 : base ≤ 16) (n : Nat) :
    '.' ∉ Nat.toDigits base n ∧ ':' ∉ Nat.toDigits base n := by
  have hall : ∀ d < 16, '.' ≠ d.digitChar ∧ ':' ≠ d.digitChar := by decide
  constructor
  · intro h
    obtain ⟨d, hd, hc⟩ := mem_toDigits h1 h
    exact (hall d (by omega)).1 hc
  · intro h
    obtain ⟨d, hd, hc⟩ := mem_toDigits h1 h
    exact (hall d (by omega)).2 hc

/-! ### Joined numbers -/

/-- Numbers in a base, separated by `sep`. -/
def joined (sep : Char) (base : Nat) (ns : List Nat) : List Char :=
  [sep].intercalate (ns.map (Nat.toDigits base))

/-- Segments are displayed in hexadecimal with colons between them. -/
theorem toList_displaySegments (ns : List Nat) :
    (displaySegments ns).toList = joined ':' 16 ns := by
  rw [displaySegments, String.toList_intercalate, List.map_map]
  simp [joined, Function.comp_def]

/-- The four octets of an IPv4 address. -/
def quads (bits : BitVec 32) : List Nat := [24, 16, 8, 0].map (fun k => (bits >>> k).toNat % 256)

/-- An IPv4 address is displayed in decimal with dots between the octets. -/
theorem toList_displayV4 (bits : BitVec 32) :
    (displayV4 bits).toList = joined '.' 10 (quads bits) := by
  rw [displayV4, String.toList_intercalate]
  simp [joined, quads]

/-- A list of numbers is known by the digits of each. -/
theorem map_toDigits_injective {base : Nat} (h1 : 1 < base) (h16 : base ≤ 16) {ms ns : List Nat}
    (h : ms.map (Nat.toDigits base) = ns.map (Nat.toDigits base)) : ms = ns :=
  List.map_injective_iff.mpr (fun _ _ => toDigits_injective h1 h16) h

/-- A list of numbers is known by its digits with separators between them. -/
theorem joined_injective {sep : Char} {base : Nat} (h1 : 1 < base) (h16 : base ≤ 16)
    (hsep : ∀ n, sep ∉ Nat.toDigits base n) {ms ns : List Nat} (hms : ms ≠ []) (hns : ns ≠ [])
    (h : joined sep base ms = joined sep base ns) : ms = ns := by
  have hsplit : ∀ ks : List Nat, ks ≠ [] →
      (joined sep base ks).splitOn sep = ks.map (Nat.toDigits base) := by
    intro ks hks
    refine List.splitOn_intercalate sep ?_ (by simpa using hks)
    simp only [List.mem_map]
    rintro l ⟨k, -, rfl⟩
    exact hsep k
  refine map_toDigits_injective h1 h16 ?_
  rw [← hsplit ms hms, ← hsplit ns hns, h]

/-- An address is known by its octets. -/
theorem quads_injective {a b : BitVec 32} (h : quads a = quads b) : a = b := by
  simp only [quads, List.map_cons, List.map_nil, List.cons.injEq, and_true,
    BitVec.toNat_ushiftRight, Nat.shiftRight_eq_div_pow] at h
  apply BitVec.eq_of_toNat_eq
  have := a.isLt
  have := b.isLt
  omega

/-- An IPv4 address is determined by its dotted text. -/
theorem joined_quads_injective {a b : BitVec 32}
    (h : joined '.' 10 (quads a) = joined '.' 10 (quads b)) : a = b := by
  have hsep : ∀ n, '.' ∉ Nat.toDigits 10 n := fun n =>
    (not_mem_toDigits (by decide) (by decide) n).1
  apply quads_injective
  exact joined_injective (by decide) (by decide) hsep (by simp [quads]) (by simp [quads]) h

/-- Different IPv4 addresses are displayed differently. -/
theorem displayV4_injective {a b : BitVec 32} (h : displayV4 a = displayV4 b) : a = b := by
  have htext := congrArg String.toList h
  rw [toList_displayV4, toList_displayV4] at htext
  exact joined_quads_injective htext

/-! ### The run of zeroes -/

/-- The groups from `run.1` on, `run.2` of them, are zero. -/
def ZeroRun (groups : List Nat) (run : Nat × Nat) : Prop :=
  run.1 + run.2 ≤ groups.length ∧ ∀ i, run.1 ≤ i → i < run.1 + run.2 → groups[i]? = some 0

/-- A run of zeros is still one in a longer list. -/
theorem ZeroRun.append {groups : List Nat} {run : Nat × Nat} (h : ZeroRun groups run) (g : Nat) :
    ZeroRun (groups ++ [g]) run := by
  refine ⟨by rw [List.length_append]; exact Nat.le_add_right_of_le h.1, fun i hlo hhi => ?_⟩
  rw [List.getElem?_append_left (hhi.trans_le h.1)]
  exact h.2 i hlo hhi

/-- The state of `longestZeroes` after these groups: the longest run so far, and the run that
    the last group is in. -/
def RunsOf (groups : List Nat) (acc : (Nat × Nat) × (Nat × Nat)) : Prop :=
  ZeroRun groups acc.1 ∧
    (acc.2.2 = 0 ∨ acc.2.1 + acc.2.2 = groups.length ∧ ZeroRun groups acc.2)

/-- One group of `longestZeroes`. -/
def zeroStep (acc : (Nat × Nat) × (Nat × Nat)) (e : Nat × Nat) : (Nat × Nat) × (Nat × Nat) :=
  if e.1 = 0 then
    let current := if acc.2.2 = 0 then (e.2, 1) else (acc.2.1, acc.2.2 + 1)
    (if acc.1.2 < current.2 then current else acc.1, current)
  else (acc.1, (0, 0))

/-- One group more keeps the runs found so far, or lengthens the current one. -/
theorem RunsOf.zeroStep {groups : List Nat} {acc : (Nat × Nat) × (Nat × Nat)}
    (h : RunsOf groups acc) (g : Nat) :
    RunsOf (groups ++ [g]) (zeroStep acc (g, groups.length)) := by
  obtain ⟨hlongest, hcurrent⟩ := h
  unfold IpAddr.zeroStep
  by_cases hg : g = 0
  · subst hg
    -- The current run begins here or grows by one.
    let current := if acc.2.2 = 0 then (groups.length, 1) else (acc.2.1, acc.2.2 + 1)
    have hlast : (groups ++ [0])[groups.length]? = some 0 := by simp
    have hrun : current.1 + current.2 = (groups ++ [0]).length ∧
        ZeroRun (groups ++ [0]) current := by
      by_cases hz : acc.2.2 = 0
      · have hcur : current = (groups.length, 1) := if_pos hz
        rw [hcur]
        refine ⟨by simp, by simp, fun i hlo hhi => ?_⟩
        obtain rfl : i = groups.length := by dsimp only at hlo hhi; omega
        exact hlast
      · have hcur : current = (acc.2.1, acc.2.2 + 1) := if_neg hz
        obtain ⟨hend, hzeroes⟩ := hcurrent.resolve_left hz
        rw [hcur]
        refine ⟨by simp; omega, by simp; omega, fun i hlo hhi => ?_⟩
        dsimp only at hlo hhi
        by_cases hi : i < groups.length
        · rw [List.getElem?_append_left hi]
          exact hzeroes.2 i hlo (by omega)
        · obtain rfl : i = groups.length := by omega
          exact hlast
    rw [if_pos rfl]
    change RunsOf _ (if acc.1.2 < current.2 then current else acc.1, current)
    refine ⟨?_, .inr hrun⟩
    by_cases hlt : acc.1.2 < current.2
    · simpa only [hlt, if_true] using hrun.2
    · simpa only [hlt, if_false] using hlongest.append 0
  · rw [if_neg hg]
    exact ⟨hlongest.append g, .inl rfl⟩

/-- The loop over the groups keeps track of the current and the longest run. -/
theorem runsOf_foldl (rest : List Nat) {groups : List Nat} {acc : (Nat × Nat) × (Nat × Nat)}
    (h : RunsOf groups acc) :
    RunsOf (groups ++ rest) ((rest.zipIdx groups.length).foldl zeroStep acc) := by
  induction rest generalizing groups acc with
  | nil => simpa using h
  | cons g rest ih =>
    have hnext := ih (h.zeroStep g)
    simpa using hnext

/-- What the loop finds is a run of zeros. -/
theorem longestZeroes_spec (groups : List Nat) : ZeroRun groups (longestZeroes groups) :=
  (@runsOf_foldl groups [] ((0, 0), (0, 0)) ⟨⟨by simp, by simp⟩, .inl rfl⟩).1

/-- A list around its run of zeroes. -/
theorem ZeroRun.split {groups : List Nat} {run : Nat × Nat} (h : ZeroRun groups run) :
    groups.take run.1 ++ (List.replicate run.2 0 ++ groups.drop (run.1 + run.2)) = groups := by
  have hmid : (groups.drop run.1).take run.2 = List.replicate run.2 0 := by
    apply List.ext_getElem?
    intro i
    by_cases hi : i < run.2
    · rw [List.getElem?_take_of_lt hi, List.getElem?_drop, h.2 _ (by omega) (by omega)]
      simp [hi]
    · simp [hi]
  rw [← hmid, ← List.drop_drop, List.take_append_drop, List.take_append_drop]

/-! ### Groups read back -/

/-- The groups of a text: empty pieces stand where `::` has left groups out. -/
def expand (pieces : List (List Char)) : List (List Char) :=
  if [] ∈ pieces then
    let left := pieces.takeWhile (· ≠ [])
    let right := (pieces.dropWhile (· ≠ [])).filter (· ≠ [])
    left ++ (List.replicate (8 - left.length - right.length) ['0'] ++ right)
  else pieces

/-- The digits of a list of groups. -/
def hexes (groups : List Nat) : List (List Char) := groups.map (Nat.toDigits 16)

/-- No group is displayed as nothing. -/
theorem ne_nil_of_mem_hexes {groups : List Nat} {l : List Char} (h : l ∈ hexes groups) :
    l ≠ [] := by
  obtain ⟨n, -, rfl⟩ := List.mem_map.mp h
  exact Nat.toDigits_ne_nil

/-- The displayed groups are split again at the colons. -/
theorem splitOn_joined {groups : List Nat} (h : groups ≠ []) :
    (joined ':' 16 groups).splitOn ':' = hexes groups := by
  refine List.splitOn_intercalate ':' (fun l hl => ?_) (by simpa using h)
  obtain ⟨n, -, rfl⟩ := List.mem_map.mp hl
  exact (not_mem_toDigits (by decide) (by decide) n).2

/-- Pieces on one side of `::`: an empty side gives one empty piece. -/
theorem splitOn_side (groups : List Nat) :
    (joined ':' 16 groups).splitOn ':' = hexes groups ∨
      groups = [] ∧ (joined ':' 16 groups).splitOn ':' = [[]] := by
  cases groups with
  | nil => exact .inr ⟨rfl, rfl⟩
  | cons g groups => exact .inl (splitOn_joined (List.cons_ne_nil g groups))

/-- Groups none of which is empty need no expansion. -/
theorem expand_hexes (groups : List Nat) : expand (hexes groups) = hexes groups :=
  if_neg (fun h => ne_nil_of_mem_hexes h rfl)

/-- The pieces around `::`, put back. -/
theorem expand_compressed (left right : List Nat) :
    expand ((joined ':' 16 left).splitOn ':' ++ ([] :: (joined ':' 16 right).splitOn ':')) =
      hexes left ++ (List.replicate (8 - left.length - right.length) ['0'] ++ hexes right) := by
  have hkeep : ∀ groups : List Nat, (hexes groups).filter (· ≠ []) = hexes groups := by
    intro groups
    refine List.filter_eq_self.mpr (fun l hl => ?_)
    simpa using ne_nil_of_mem_hexes hl
  have hright : ((joined ':' 16 right).splitOn ':').filter (· ≠ []) = hexes right := by
    rcases splitOn_side right with h | ⟨rfl, h⟩
    · rw [h, hkeep]
    · rw [h]
      rfl
  have hlength : ∀ groups : List Nat, (hexes groups).length = groups.length := fun groups =>
    List.length_map _
  rw [expand, if_pos (by simp)]
  dsimp only
  -- With nothing on the left there is a second empty piece.
  rcases splitOn_side left with h | ⟨rfl, h⟩
  · have hall : ∀ l ∈ hexes left, decide (l ≠ []) = true := fun l hl => by
      simpa using ne_nil_of_mem_hexes hl
    rw [h, List.takeWhile_append_of_pos hall, List.dropWhile_append_of_pos hall,
      List.takeWhile_cons_of_neg (by simp), List.dropWhile_cons_of_neg (by simp),
      List.filter_cons_of_neg (by simp), hright, List.append_nil, hlength, hlength]
  · rw [h, List.singleton_append, List.takeWhile_cons_of_neg (by simp),
      List.dropWhile_cons_of_neg (by simp), List.filter_cons_of_neg (by simp),
      List.filter_cons_of_neg (by simp), hright, hlength]
    rfl

/-! ### IPv6 -/

/-- Two numbers that agree from bit `k + 16` on and in the group at `k` agree from `k` on. -/
theorem div_eq_of_group {a b : Nat} (k : Nat) (hhigh : a / 2 ^ (k + 16) = b / 2 ^ (k + 16))
    (hgroup : a / 2 ^ k % 65536 = b / 2 ^ k % 65536) : a / 2 ^ k = b / 2 ^ k := by
  have hsplit : ∀ n, n / 2 ^ (k + 16) = n / 2 ^ k / 65536 := fun n => by
    rw [Nat.pow_add, Nat.div_div_eq_div_mul]
  rw [hsplit, hsplit] at hhigh
  omega

/-- An address is known by its segments. -/
theorem segments_injective {a b : BitVec 128} (h : segments a = segments b) : a = b := by
  simp only [segments, List.map_cons, List.map_nil, List.cons.injEq, and_true,
    BitVec.toNat_ushiftRight, Nat.shiftRight_eq_div_pow] at h
  obtain ⟨h7, h6, h5, h4, h3, h2, h1, h0⟩ := h
  have hzero : ∀ x : BitVec 128, x.toNat / 2 ^ 128 = 0 := fun x => Nat.div_eq_of_lt x.isLt
  have e7 := div_eq_of_group 112 ((hzero a).trans (hzero b).symm) h7
  have e6 := div_eq_of_group 96 e7 h6
  have e5 := div_eq_of_group 80 e6 h5
  have e4 := div_eq_of_group 64 e5 h4
  have e3 := div_eq_of_group 48 e4 h3
  have e2 := div_eq_of_group 32 e3 h2
  have e1 := div_eq_of_group 16 e2 h1
  have e0 := div_eq_of_group 0 e1 h0
  simpa [BitVec.toNat_inj] using e0

/-- An IPv4-mapped address: `::ffff:` and a dotted quad. -/
def Mapped (bits : BitVec 128) : Prop := (segments bits).take 6 = [0, 0, 0, 0, 0, 65535]

/-- How an address is displayed that is not a mapped one. -/
theorem displayV6_eq {bits : BitVec 128} (h : ¬Mapped bits) :
    displayV6 bits =
      let run := longestZeroes (segments bits)
      if 1 < run.2 then
        displaySegments ((segments bits).take run.1) ++ "::" ++
          displaySegments ((segments bits).drop (run.1 + run.2))
      else displaySegments (segments bits) := if_neg h

/-- The groups of an address that is not mapped, read back from its text. -/
theorem expand_displayV6 {bits : BitVec 128} (h : ¬Mapped bits) :
    expand ((displayV6 bits).toList.splitOn ':') = hexes (segments bits) := by
  have hlen : (segments bits).length = 8 := rfl
  rw [displayV6_eq h]
  dsimp only
  split
  · have hrun := longestZeroes_spec (segments bits)
    generalize longestZeroes (segments bits) = run at hrun ⊢
    have hend := hrun.1
    have hsplit := hrun.split
    have hcolons : "::".toList = [':', ':'] := rfl
    rw [String.toList_append, String.toList_append, toList_displaySegments,
      toList_displaySegments, hcolons, List.append_assoc, List.cons_append,
      List.singleton_append, List.splitOn_append_cons_self,
      ← List.nil_append (':' :: joined _ _ _), List.splitOn_append_cons_self]
    -- The empty piece stands for the groups left out.
    have hpieces := expand_compressed ((segments bits).take run.1)
      ((segments bits).drop (run.1 + run.2))
    have hcount : 8 - ((segments bits).take run.1).length -
        ((segments bits).drop (run.1 + run.2)).length = run.2 := by
      rw [List.length_take, List.length_drop]
      omega
    rw [hcount] at hpieces
    rw [List.splitOn_nil, List.singleton_append, hpieces]
    conv_rhs => rw [← hsplit]
    simp [hexes]
  · rw [toList_displaySegments, splitOn_joined (by simp [segments]), expand_hexes]

/-! ### Texts tell the forms apart -/

/-- What is neither the separator nor a digit does not occur. -/
theorem not_mem_joined {sep c : Char} {base : Nat} {ns : List Nat} (hsep : c ≠ sep)
    (h : ∀ n, c ∉ Nat.toDigits base n) : c ∉ joined sep base ns := by
  refine Text.not_mem_intercalate hsep (fun l hl => ?_)
  obtain ⟨n, -, rfl⟩ := List.mem_map.mp hl
  exact h n

/-- A list of two or more numbers holds a separator. -/
theorem mem_joined {sep : Char} {base : Nat} {ns : List Nat} (h : 2 ≤ ns.length) :
    sep ∈ joined sep base ns := by
  obtain ⟨m, n, rest, rfl⟩ : ∃ m n rest, ns = m :: n :: rest := by
    cases ns with
    | nil => simp at h
    | cons m ns =>
      cases ns with
      | nil => simp at h
      | cons n rest => exact ⟨m, n, rest, rfl⟩
  rw [joined, List.map_cons, List.map_cons, List.intercalate_cons_cons]
  simp

/-- A mapped address is displayed as its IPv4 address behind `::ffff:`. -/
theorem displayV6_mapped {bits : BitVec 128} (h : Mapped bits) :
    (displayV6 bits).toList = "::ffff:".toList ++ joined '.' 10 (quads (bits.setWidth 32)) := by
  rw [← toList_displayV4, ← String.toList_append]
  exact congrArg String.toList (if_pos h)

/-- No colon stands in a displayed IPv4 address. -/
theorem not_mem_displayV4 (bits : BitVec 32) : ':' ∉ (displayV4 bits).toList := by
  rw [toList_displayV4]
  exact not_mem_joined (by decide) (fun n => (not_mem_toDigits (by decide) (by decide) n).2)

/-- A colon stands in every displayed IPv6 address. -/
theorem mem_displayV6 (bits : BitVec 128) : ':' ∈ (displayV6 bits).toList := by
  by_cases h : Mapped bits
  · rw [displayV6_mapped h]
    exact List.mem_append_left _ (by decide)
  · rw [displayV6_eq h]
    dsimp only
    split
    · rw [String.toList_append, String.toList_append]
      exact List.mem_append_left _ (List.mem_append_right _ (by decide))
    · rw [toList_displaySegments]
      exact mem_joined (by simp [segments])

/-- Only a mapped address has a dot in its text. -/
theorem mem_displayV6_dot (bits : BitVec 128) : '.' ∈ (displayV6 bits).toList ↔ Mapped bits := by
  have hnot : ∀ ns, '.' ∉ joined ':' 16 ns := fun ns =>
    not_mem_joined (by decide) (fun n => (not_mem_toDigits (by decide) (by decide) n).1)
  by_cases h : Mapped bits
  · refine iff_of_true ?_ h
    rw [displayV6_mapped h]
    exact List.mem_append_right _ (mem_joined (by simp [quads]))
  · refine iff_of_false ?_ h
    rw [displayV6_eq h]
    dsimp only
    split
    · rw [String.toList_append, String.toList_append, toList_displaySegments,
        toList_displaySegments, List.mem_append, List.mem_append, not_or, not_or]
      exact ⟨⟨hnot _, by decide⟩, hnot _⟩
    · rw [toList_displaySegments]
      exact hnot _

/-- Different IPv6 addresses are displayed differently. -/
theorem displayV6_injective {a b : BitVec 128} (h : displayV6 a = displayV6 b) : a = b := by
  have hform : Mapped a ↔ Mapped b := by rw [← mem_displayV6_dot, ← mem_displayV6_dot, h]
  by_cases ha : Mapped a
  · have hb := hform.mp ha
    have htext := congrArg String.toList h
    rw [displayV6_mapped ha, displayV6_mapped hb, List.append_cancel_left_eq] at htext
    have hlow : a.setWidth 32 = b.setWidth 32 := joined_quads_injective htext
    have hlow' := congrArg BitVec.toNat hlow
    rw [BitVec.toNat_setWidth, BitVec.toNat_setWidth] at hlow'
    have hlast : (segments a).drop 6 = (segments b).drop 6 := by
      simp only [segments, List.map_cons, List.map_nil, List.drop_succ_cons, List.drop_zero,
        List.cons.injEq, and_true, BitVec.toNat_ushiftRight, Nat.shiftRight_eq_div_pow]
      omega
    refine segments_injective ?_
    rw [← List.take_append_drop 6 (segments a), ← List.take_append_drop 6 (segments b), hlast,
      ha.trans hb.symm]
  · have hb : ¬Mapped b := fun hb => ha (hform.mpr hb)
    have htext := congrArg (fun t => expand (t.toList.splitOn ':')) h
    rw [expand_displayV6 ha, expand_displayV6 hb] at htext
    exact segments_injective (map_toDigits_injective (by decide) (by decide) htext)

/-- An address is determined by its text. -/
theorem display_injective : Function.Injective display := by
  intro a b h
  cases a with
  | v4 a =>
    cases b with
    | v4 b => rw [displayV4_injective h]
    | v6 b =>
      have htext : displayV4 a = displayV6 b := h
      exact absurd (mem_displayV6 b) (htext ▸ not_mem_displayV4 a)
  | v6 a =>
    cases b with
    | v4 b =>
      have htext : displayV6 a = displayV4 b := h
      exact absurd (mem_displayV6 a) (htext ▸ not_mem_displayV4 b)
    | v6 b => rw [displayV6_injective h]

end IpAddr

end Netdiag
