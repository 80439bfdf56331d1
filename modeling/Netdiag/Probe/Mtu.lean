import Netdiag.Probe.Context
import Mathlib.Data.List.Sort
import Mathlib.Data.List.Destutter

namespace Netdiag.Probe.Mtu

/-!
# Probes — path MTU discovery

`daemon/src/probe/mtu.rs`: don't-fragment echoes of decreasing size until one is answered.
The echo itself (`icmp::ping`) and the kernel's cached value (`kernel_path_mtu`) are
parameters.

* `candidateMtus` — the sizes that are tried, largest first.
* `search` — the loop over them.
* `discover` — the probe; `discover_ok_iff` says that it succeeds exactly when the echo of
  the full interface size is answered.
-/

open ProbeResult

/-- `IPV6_MIN_MTU`. -/
def ipv6MinMtu : Nat := 1280

/-- `ETHERNET_MTU`. -/
def ethernetMtu : Nat := 1500

/-- `payload_for_mtu`. -/
def payloadForMtu (mtu : Nat) (v6 : Bool) : Nat :=
  let overhead := if v6 then 40 + 8 else 20 + 8
  mtu - overhead

/-- The smallest size worth trying. -/
def floor (v6 : Bool) : Nat := if v6 then ipv6MinMtu else 576

/-- `candidate_mtus`. -/
def candidateMtus (interfaceMtu : Nat) (v6 : Bool) : List Nat :=
  let sizes :=
    [interfaceMtu, ethernetMtu, 1492, 1480, 1450, 1420, 1400, 1280, 1024, 576].filter
      (fun m => floor v6 ≤ m && m ≤ interfaceMtu)
  (sizes.insertionSort (· ≥ ·)).destutter (· ≠ ·)

/-- The search loop: the size that got through and the smallest one that did not. -/
def search (echo : Nat → ProbeResult) : List Nat → Option Nat → Option Nat × Option Nat
  | [], smallestFailed => (none, smallestFailed)
  | mtu :: rest, smallestFailed =>
    if (echo mtu).ok then (some mtu, smallestFailed) else search echo rest (some mtu)

/-- The interface MTU `discover` works with: zero stands for Ethernet's. -/
def effectiveMtu (interfaceMtu : Nat) : Nat :=
  if interfaceMtu = 0 then ethernetMtu else interfaceMtu

/-- `discover`. -/
def discover (ping : IpAddr → Nat → Nat → ProbeContext → ProbeResult)
    (kernelPathMtu : IpAddr → ProbeContext → Option Nat)
    (target : IpAddr) (interfaceMtu : Nat) (ctx : ProbeContext) : ProbeResult :=
  let v6 := target.isIpv6
  let interfaceMtu := effectiveMtu interfaceMtu
  let kernelMtu := kernelPathMtu target ctx
  let candidates := candidateMtus interfaceMtu v6
  let (largestOk, smallestFailed) :=
    search (fun mtu => ping target 1 (payloadForMtu mtu v6) ctx) candidates none
  let evidence :=
    [("target", target.display),
      ("interface_mtu", toString interfaceMtu),
      ("routing", ctx.describe),
      ("probed_sizes", ", ".intercalate (candidates.map toString))] ++
    (kernelMtu.map (fun mtu => ("kernel_path_mtu", toString mtu))).toList
  let result :=
    match largestOk, smallestFailed with
    -- No larger size was refused on the way.
    | some mtu, none =>
      success s!"{mtu} byte packets reach {target.display} without fragmentation"
    -- The largest size that passed and the smallest that did not.
    | some ok, some failed =>
      failure (s!"{failed} byte packets do not reach {target.display} but {ok} byte packets do; " ++
        s!"the path MTU is between {ok} and {failed}")
    | none, _ =>
      failure (s!"no echo reply from {target.display} at any size; ICMP is probably filtered, " ++
        "so path MTU could not be measured")
  let measured := (largestOk.map (fun mtu => ("measured_path_mtu", toString mtu))).toList
  (measured ++ evidence).foldl (fun r e => r.with_ e.1 e.2) result

/-! ### When it succeeds -/

/-- Attaching evidence leaves the outcome alone. -/
theorem foldl_with_ok (evidence : List (String × String)) (r : ProbeResult) :
    (evidence.foldl (fun r e => r.with_ e.1 e.2) r).ok = r.ok := by
  induction evidence generalizing r with
  | nil => rfl
  | cons e rest ih =>
    have step := ih (r.with_ e.1 e.2)
    rw [with_ok] at step
    exact step

/-- Dropping repeats keeps the first element. -/
private theorem head?_destutter' (a : Nat) (l : List Nat) :
    (l.destutter' (· ≠ ·) a).head? = some a := by
  induction l with
  | nil => rfl
  | cons b l ih =>
    by_cases h : a ≠ b
    · rw [List.destutter'_cons_pos _ h]
      rfl
    · rw [List.destutter'_cons_neg _ h]
      exact ih

/-- **The first size tried is the interface's own**, unless it is below the floor and
    nothing is tried at all. -/
theorem head?_candidateMtus (m : Nat) (v6 : Bool) :
    (candidateMtus m v6).head? = if floor v6 ≤ m then some m else none := by
  by_cases h : floor v6 ≤ m
  · rw [if_pos h]
    unfold candidateMtus
    dsimp only
    rw [List.filter_cons_of_pos (by simp [h]), List.insertionSort_cons_of_forall_rel]
    · exact head?_destutter' _ _
    · intro b hb
      have hb := List.of_mem_filter hb
      simp only [Bool.and_eq_true, decide_eq_true_iff] at hb
      exact hb.2
  · rw [if_neg h]
    -- A size between the floor and the interface MTU cannot exist.
    have empty : ([m, ethernetMtu, 1492, 1480, 1450, 1420, 1400, 1280, 1024, 576].filter
        (fun k => floor v6 ≤ k && k ≤ m)) = [] := by
      rw [List.filter_eq_nil_iff]
      intro k _
      simp only [Bool.and_eq_true, decide_eq_true_iff]
      omega
    unfold candidateMtus
    rw [empty]
    rfl

/-- The loop ends without a failed size exactly when the first size is answered. -/
theorem search_clean_iff (echo : Nat → ProbeResult) (sizes : List Nat) :
    (∃ m, search echo sizes none = (some m, none)) ↔
      ∃ m, sizes.head? = some m ∧ (echo m).ok = true := by
  -- Once a size has failed, the second component is never empty again.
  have failed (l : List Nat) (k : Nat) : (search echo l (some k)).2 ≠ none := by
    induction l generalizing k with
    | nil => simp [search]
    | cons a l ih =>
      by_cases h : (echo a).ok = true
      · simp [search, h]
      · simp only [search, h, if_false, Bool.false_eq_true]
        exact ih a
  cases sizes with
  | nil => simp [search]
  | cons a l =>
    by_cases h : (echo a).ok = true
    · simp [search, h]
    · simp only [search, h, if_false, Bool.false_eq_true, List.head?_cons, Option.some.injEq]
      constructor
      · rintro ⟨m, hm⟩
        exact absurd (congrArg Prod.snd hm) (failed l a)
      · rintro ⟨m, rfl, hm⟩
        exact absurd hm h

/-- **Success means the full size.** The probe succeeds exactly when the interface MTU is at
    least the floor and the echo that fills it is answered. -/
theorem discover_ok_iff (ping : IpAddr → Nat → Nat → ProbeContext → ProbeResult)
    (kernelPathMtu : IpAddr → ProbeContext → Option Nat)
    (target : IpAddr) (interfaceMtu : Nat) (ctx : ProbeContext) :
    (discover ping kernelPathMtu target interfaceMtu ctx).ok = true ↔
      floor target.isIpv6 ≤ effectiveMtu interfaceMtu ∧
        (ping target 1 (payloadForMtu (effectiveMtu interfaceMtu) target.isIpv6) ctx).ok = true := by
  have clean := search_clean_iff
    (fun mtu => ping target 1 (payloadForMtu mtu target.isIpv6) ctx)
    (candidateMtus (effectiveMtu interfaceMtu) target.isIpv6)
  rw [head?_candidateMtus] at clean
  have rhs : (∃ m, (if floor target.isIpv6 ≤ effectiveMtu interfaceMtu
      then some (effectiveMtu interfaceMtu) else none) = some m ∧
        (ping target 1 (payloadForMtu m target.isIpv6) ctx).ok = true) ↔
      floor target.isIpv6 ≤ effectiveMtu interfaceMtu ∧
        (ping target 1 (payloadForMtu (effectiveMtu interfaceMtu) target.isIpv6) ctx).ok = true := by
    by_cases h : floor target.isIpv6 ≤ effectiveMtu interfaceMtu
    · simp [h]
    · simp [h]
  rw [← rhs, ← clean]
  simp only [discover, foldl_with_ok]
  rcases search _ (candidateMtus (effectiveMtu interfaceMtu) target.isIpv6) none with ⟨_ | m, _ | k⟩
  · simp
  · simp
  · simp
  · simp

end Netdiag.Probe.Mtu
