import Netdiag.Collect.Rules
import Netdiag.Lib.Sorted
import Netdiag.Watch.Neighbors

namespace Netdiag.Collect

/-!
# Collectors — neighbours

`get_neighbors` and `find_gateway` of `daemon/src/collect/neigh.rs`.

* `getNeighbors` — the dumps that are asked for, filtered, sorted by interface and address.
* `findGateway_iff` — the neighbour found for a gateway is the one on the lowest interface, and
  of those with the same key the first of the kernel.
-/

open Netdiag.Watch (NeighbourMessage WatchedNeighbor neighborToProto)

/-- What `get_neighbors` is asked for; zero stands for any interface. -/
structure NeighborQuery where
  family : IpFamily := .unspecified
  interfaceIndex : Nat := 0
  onlyRouters : Bool := false
  deriving DecidableEq, Repr

/-- The answers of the kernel to the two `RTM_GETNEIGH` dumps. -/
abbrev NeighborDumps := IpVersion → Except String (List NeighbourMessage)

/-- The checks of the loop over one dump. -/
def NeighborQuery.keeps (q : NeighborQuery) (n : WatchedNeighbor) : Bool :=
  !(q.interfaceIndex != 0 && n.interfaceIndex != q.interfaceIndex) &&
    !(q.onlyRouters && !n.isRouter)

/-! ### The order -/

/-- `Ord` of byte vectors: by the first byte that differs, a shorter one before a longer. -/
def bytesLe : List (BitVec 8) → List (BitVec 8) → Bool
  | [], _ => true
  | _ :: _, [] => false
  | a :: as, b :: bs => if a = b then bytesLe as bs else decide (a < b)

/-- `Ord` of an address that may be missing. -/
def addressLe : Option (List (BitVec 8)) → Option (List (BitVec 8)) → Bool
  | none, _ => true
  | some _, none => false
  | some a, some b => bytesLe a b

/-- The comparison of the sort: the interface index, then the bytes of the address. -/
def neighborLe (a b : WatchedNeighbor) : Bool :=
  decide (a.interfaceIndex < b.interfaceIndex) ||
    (a.interfaceIndex == b.interfaceIndex &&
      addressLe (a.address.map IpAddress.addr) (b.address.map IpAddress.addr))

/-- The order of bytes is transitive. -/
theorem bytesLe_trans {a b c : List (BitVec 8)} (hab : bytesLe a b = true)
    (hbc : bytesLe b c = true) : bytesLe a c = true := by
  induction a generalizing b c with
  | nil => rfl
  | cons x a ih =>
    cases b with
    | nil => cases hab
    | cons y b =>
      cases c with
      | nil => cases hbc
      | cons z c =>
        unfold bytesLe at hab hbc ⊢
        -- By the first octet in which two of them differ.
        by_cases hxy : x = y
        · subst hxy
          rw [if_pos rfl] at hab
          by_cases hxz : x = z
          · rw [if_pos hxz] at hbc ⊢
            exact ih hab hbc
          · rw [if_neg hxz] at hbc ⊢
            exact hbc
        · rw [if_neg hxy, decide_eq_true_eq] at hab
          by_cases hyz : y = z
          · subst hyz
            rw [if_neg hxy]
            exact decide_eq_true hab
          · rw [if_neg hyz, decide_eq_true_eq] at hbc
            have hlt : x < z := BitVec.lt_trans hab hbc
            have hne : x ≠ z := fun h => BitVec.lt_irrefl z (h ▸ hlt)
            rw [if_neg hne]
            exact decide_eq_true hlt

/-- Any two byte strings compare. -/
theorem bytesLe_total (a b : List (BitVec 8)) : (bytesLe a b || bytesLe b a) = true := by
  induction a generalizing b with
  | nil => rfl
  | cons x a ih =>
    cases b with
    | nil => rfl
    | cons y b =>
      unfold bytesLe
      by_cases h : x = y
      · simpa [h] using ih b
      · rw [if_neg h, if_neg (Ne.symm h), Bool.or_eq_true, decide_eq_true_eq, decide_eq_true_eq]
        rcases Nat.lt_or_ge x.toNat y.toNat with hlt | hge
        · exact .inl hlt
        · right
          have hne : x.toNat ≠ y.toNat := fun heq => h (BitVec.eq_of_toNat_eq heq)
          show y.toNat < x.toNat
          omega

/-- So it is with addresses that may be missing. -/
theorem addressLe_trans {a b c : Option (List (BitVec 8))} (hab : addressLe a b = true)
    (hbc : addressLe b c = true) : addressLe a c = true := by
  cases a with
  | none => rfl
  | some a =>
    cases b with
    | none => cases hab
    | some b =>
      cases c with
      | none => cases hbc
      | some c => exact bytesLe_trans hab hbc

/-- And any two of them compare. -/
theorem addressLe_total (a b : Option (List (BitVec 8))) :
    (addressLe a b || addressLe b a) = true := by
  cases a with
  | none => rfl
  | some a =>
    cases b with
    | none => rfl
    | some b => exact bytesLe_total a b

/-- First the interface, then the address. -/
theorem neighborLe_iff (a b : WatchedNeighbor) :
    neighborLe a b = true ↔ a.interfaceIndex < b.interfaceIndex ∨
      (a.interfaceIndex = b.interfaceIndex ∧
        addressLe (a.address.map IpAddress.addr) (b.address.map IpAddress.addr) = true) := by
  simp [neighborLe]

/-- The order of neighbours is transitive. -/
theorem neighborLe_trans (a b c : WatchedNeighbor) (hab : neighborLe a b = true)
    (hbc : neighborLe b c = true) : neighborLe a c = true := by
  rw [neighborLe_iff] at hab hbc ⊢
  rcases hab with hab | ⟨hab, hab'⟩
  · left
    omega
  · rcases hbc with hbc | ⟨hbc, hbc'⟩
    · left
      omega
    · exact .inr ⟨hab.trans hbc, addressLe_trans hab' hbc'⟩

/-- Any two neighbours compare. -/
theorem neighborLe_total (a b : WatchedNeighbor) : (neighborLe a b || neighborLe b a) = true := by
  rw [Bool.or_eq_true, neighborLe_iff, neighborLe_iff]
  rcases Nat.lt_trichotomy a.interfaceIndex b.interfaceIndex with hlt | heq | hlt
  · exact .inl (.inl hlt)
  · have htotal := addressLe_total (a.address.map IpAddress.addr) (b.address.map IpAddress.addr)
    rw [Bool.or_eq_true] at htotal
    rcases htotal with hle | hle
    · exact .inl (.inr ⟨heq, hle⟩)
    · exact .inr (.inr ⟨heq.symm, hle⟩)
  · exact .inr (.inl hlt)

/-! ### The report -/

/-- The neighbours that are asked for, in the order of the kernel. -/
def dumpedNeighbors (dumps : NeighborDumps) (q : NeighborQuery) (ifNames : Nat → Option String) :
    Except String (List WatchedNeighbor) := do
  let dumped ← (versions q.family).mapM dumps
  return (dumped.flatten.map (neighborToProto · ifNames)).filter q.keeps

/-- `get_neighbors`. -/
def getNeighbors (dumps : NeighborDumps) (q : NeighborQuery) (ifNames : Nat → Option String) :
    Except String (List WatchedNeighbor) := do
  let dumped ← dumpedNeighbors dumps q ifNames
  return dumped.mergeSort neighborLe

/-- The report is the filtered dump, sorted. -/
theorem getNeighbors_eq {dumps : NeighborDumps} {q : NeighborQuery}
    {ifNames : Nat → Option String} {reported : List WatchedNeighbor}
    (h : getNeighbors dumps q ifNames = .ok reported) :
    ∃ asked, dumpedNeighbors dumps q ifNames = .ok asked ∧
      reported = asked.mergeSort neighborLe := by
  unfold getNeighbors at h
  cases hdump : dumpedNeighbors dumps q ifNames with
  | error e =>
    rw [hdump] at h
    cases h
  | ok asked =>
    rw [hdump] at h
    obtain rfl := Except.ok.inj h
    exact ⟨asked, rfl, rfl⟩

/-! ### Gateways -/

/-- The condition of `find_gateway`. -/
def isGateway (gateway : IpAddr) (interfaceIndex : Nat) (n : Neighbor) : Bool :=
  n.address.bind IpAddress.toIp == some gateway &&
    (interfaceIndex == 0 || n.interfaceIndex == interfaceIndex)

/-- `find_gateway` on the neighbours of a report finds, of those that are the gateway, the first of
    the least in the order of the report. -/
theorem findGateway_iff {dumps : NeighborDumps} {q : NeighborQuery}
    {ifNames : Nat → Option String} {reported : List WatchedNeighbor}
    (h : getNeighbors dumps q ifNames = .ok reported) (gateway : IpAddr) (interfaceIndex : Nat)
    (found : Neighbor) :
    findGateway (reported.map WatchedNeighbor.toNeighbor) gateway interfaceIndex = some found ↔
      ∃ asked n, dumpedNeighbors dumps q ifNames = .ok asked ∧
        Sorted.Chosen neighborLe (fun n => isGateway gateway interfaceIndex n.toNeighbor) asked n ∧
          n.toNeighbor = found := by
  obtain ⟨asked, hasked, rfl⟩ := getNeighbors_eq h
  -- What `find` sees is the sorted table.
  have hfind : findGateway ((asked.mergeSort neighborLe).map WatchedNeighbor.toNeighbor) gateway
      interfaceIndex =
        ((asked.mergeSort neighborLe).find?
          (fun n => isGateway gateway interfaceIndex n.toNeighbor)).map
            WatchedNeighbor.toNeighbor := by
    rw [findGateway, List.find?_map]
    rfl
  rw [hfind, Option.map_eq_some_iff]
  constructor
  · rintro ⟨n, hn, rfl⟩
    rw [Sorted.find?_mergeSort_eq_some_iff neighborLe_trans neighborLe_total] at hn
    exact ⟨asked, n, hasked, hn, rfl⟩
  · rintro ⟨asked', n, hasked', hn, rfl⟩
    rw [hasked] at hasked'
    obtain rfl := Except.ok.inj hasked'
    refine ⟨n, ?_, rfl⟩
    rwa [Sorted.find?_mergeSort_eq_some_iff neighborLe_trans neighborLe_total]

/-! ### Names -/

/-- A neighbour has the name of its interface, or none if the index is not known. -/
theorem neighborToProto_named (msg : NeighbourMessage) (ifNames : Nat → Option String) :
    (neighborToProto msg ifNames).interfaceName =
      (ifNames (neighborToProto msg ifNames).interfaceIndex).getD "" := by
  have hkeeps : ∀ (attrs : List Watch.NeighbourAttribute) (n : WatchedNeighbor),
      (attrs.foldl WatchedNeighbor.applyAttribute n).interfaceName = n.interfaceName ∧
        (attrs.foldl WatchedNeighbor.applyAttribute n).interfaceIndex = n.interfaceIndex := by
    intro attrs
    induction attrs with
    | nil => exact fun n => ⟨rfl, rfl⟩
    | cons attr attrs ih =>
      intro n
      obtain ⟨hname, hindex⟩ := ih (n.applyAttribute attr)
      rw [List.foldl_cons, hname, hindex]
      cases attr <;> exact ⟨rfl, rfl⟩
  obtain ⟨hname, hindex⟩ := hkeeps msg.attributes
    { interfaceIndex := msg.ifindex, interfaceName := (ifNames msg.ifindex).getD "",
      state := Watch.neighbourStateToProto msg.state, isRouter := msg.router }
  unfold neighborToProto
  rw [hname, hindex]

/-- So has every neighbour of the report. -/
theorem getNeighbors_named {dumps : NeighborDumps} {q : NeighborQuery}
    {ifNames : Nat → Option String} {reported : List WatchedNeighbor}
    (h : getNeighbors dumps q ifNames = .ok reported) :
    ∀ n ∈ reported, n.interfaceName = (ifNames n.interfaceIndex).getD "" := by
  obtain ⟨asked, hasked, rfl⟩ := getNeighbors_eq h
  intro n hn
  rw [List.mem_mergeSort] at hn
  unfold dumpedNeighbors at hasked
  cases hdump : (versions q.family).mapM dumps with
  | error e =>
    rw [hdump] at hasked
    cases hasked
  | ok dumped =>
    rw [hdump] at hasked
    obtain rfl := Except.ok.inj hasked
    obtain ⟨msg, -, rfl⟩ := List.mem_map.mp (List.mem_filter.mp hn).1
    exact neighborToProto_named msg ifNames

end Netdiag.Collect
