import Netdiag.Lib.Text
import Netdiag.Probe.Mtu

namespace Netdiag.Probe.Mtu

/-!
# Probes — what path MTU discovery tells of the path

`daemon/src/probe/mtu.rs` over a path that answers an echo exactly when it fits into `p` bytes.

* `candidateMtus_pairwise`, `mem_candidateMtus` — the sizes that are tried.
* `search_spec` — where the loop stops.
* `bracket`, `measured` — the two things that are reported: the text that puts the path MTU
  between two sizes, and the size in the evidence.
-/

open ProbeResult

variable {m p : Nat} {v6 : Bool}

/-! ### The candidates -/

/-- The sizes are strictly decreasing: sorted, and without repeats next to each other. -/
theorem candidateMtus_pairwise (m : Nat) (v6 : Bool) : (candidateMtus m v6).Pairwise (· > ·) := by
  unfold candidateMtus
  generalize List.filter _ _ = sizes
  have hsorted : ((sizes.insertionSort (· ≥ ·)).destutter (· ≠ ·)).Pairwise (· ≥ ·) :=
    (List.pairwise_insertionSort (· ≥ ·) sizes).sublist (List.destutter_sublist _ _)
  have hchain : ((sizes.insertionSort (· ≥ ·)).destutter (· ≠ ·)).IsChain (· ≠ ·) :=
    List.isChain_destutter _ _
  generalize (sizes.insertionSort (· ≥ ·)).destutter (· ≠ ·) = l at hsorted hchain
  induction l with
  | nil => exact List.Pairwise.nil
  | cons a l ih =>
    rw [List.pairwise_cons] at hsorted ⊢
    refine ⟨?_, ih hsorted.2 hchain.tail⟩
    cases l with
    | nil => simp
    | cons b l =>
      -- The next size differs, and the others are no larger than it.
      have hab : a > b := by
        have hle := hsorted.1 b List.mem_cons_self
        have hne : a ≠ b := (List.isChain_cons_cons.mp hchain).1
        omega
      intro c hc
      rcases List.mem_cons.mp hc with rfl | hc
      · exact hab
      · have := (List.pairwise_cons.mp hsorted.2).1 c hc
        omega

theorem mem_candidateMtus {c : Nat} (h : c ∈ candidateMtus m v6) : floor v6 ≤ c ∧ c ≤ m := by
  have hsort := (List.destutter_sublist _ _).subset h
  rw [List.mem_insertionSort] at hsort
  simpa using List.of_mem_filter hsort

/-- The interface's own size is tried, unless it is below the floor. -/
theorem self_mem_candidateMtus (h : floor v6 ≤ m) : m ∈ candidateMtus m v6 := by
  apply List.mem_of_mem_head?
  rw [head?_candidateMtus, if_pos h]
  rfl

/-! ### The search -/

/-- The loop fails a stretch of sizes, and stops at the first that gets through. -/
theorem search_spec (echo : Nat → ProbeResult) (sizes : List Nat) (failed : Option Nat) :
    ∃ before, (∀ c ∈ before, (echo c).ok = false) ∧
      ((∃ ok after, sizes = before ++ ok :: after ∧ (echo ok).ok = true ∧
          search echo sizes failed = (some ok, before.getLast?.or failed)) ∨
        (sizes = before ∧ search echo sizes failed = (none, before.getLast?.or failed))) := by
  induction sizes generalizing failed with
  | nil => exact ⟨[], by simp, .inr ⟨rfl, rfl⟩⟩
  | cons size sizes ih =>
    -- The search ends at the first size that is answered.
    by_cases hok : (echo size).ok = true
    · refine ⟨[], by simp, .inl ⟨size, sizes, rfl, hok, ?_⟩⟩
      rw [search, if_pos hok]
      rfl
    · obtain ⟨before, hfail, hend⟩ := ih (some size)
      have hlast : (size :: before).getLast?.or failed = before.getLast?.or (some size) := by
        cases before with
        | nil => rfl
        | cons b before => simp [List.getLast?_cons]
      refine ⟨size :: before, ?_, ?_⟩
      · intro c hc
        rcases List.mem_cons.mp hc with rfl | hc
        · simpa using hok
        · exact hfail c hc
      · rw [hlast, search, if_neg hok]
        rcases hend with ⟨ok, after, rfl, hecho, hs⟩ | ⟨rfl, hs⟩
        · exact .inl ⟨ok, after, rfl, hecho, hs⟩
        · exact .inr ⟨rfl, hs⟩

/-! ### What is reported -/

/-- The text that puts the path MTU between two sizes. -/
def bracket (target : IpAddr) (ok failed : Nat) : String :=
  s!"{failed} byte packets do not reach {target.display} but {ok} byte packets do; " ++
    s!"the path MTU is between {ok} and {failed}"

/-- The size the evidence gives for the path. -/
def measured (r : ProbeResult) : Option String := r.evidence.lookup "measured_path_mtu"

theorem foldl_with_ (evidence : List (String × String)) (r : ProbeResult) :
    evidence.foldl (fun r e => r.with_ e.1 e.2) r =
      { r with evidence := r.evidence ++ evidence } := by
  induction evidence generalizing r with
  | nil => simp
  | cons e rest ih =>
    rw [List.foldl_cons, ih, with_]
    simp

/-! The text begins with the size that failed, up to the first blank, and gives the other
one behind the address. -/

theorem toList_bracket (target : IpAddr) (ok failed : Nat) :
    ∃ rest, (bracket target ok failed).toList = Nat.toDigits 10 failed ++
      ' ' :: ("byte packets ".toList ++ 'd' :: ("o not reach ".toList ++ target.display.toList ++
        " but ".toList ++ (Nat.toDigits 10 ok ++ ' ' :: rest))) := by
  have hdigits : ∀ n : Nat, (toString n).toList = Nat.toDigits 10 n := fun n => Nat.toList_repr
  refine ⟨("byte packets do; ".toList ++ (toString "the path MTU is between ").toList ++
    Nat.toDigits 10 ok ++ (toString " and ").toList ++ Nat.toDigits 10 failed), ?_⟩
  unfold bracket
  simp only [String.toList_append, hdigits, List.append_assoc]
  rfl

/-- The text tells the sizes. -/
theorem bracket_inj {target : IpAddr} {ok failed ok' failed' : Nat}
    (h : bracket target ok failed = bracket target ok' failed') :
    ok = ok' ∧ failed = failed' := by
  obtain ⟨rest, hleft⟩ := toList_bracket target ok failed
  obtain ⟨rest', hright⟩ := toList_bracket target ok' failed'
  rw [h, hright] at hleft
  obtain ⟨hfailed, htail⟩ := Text.toDigits_append_inj (by decide) hleft
  have hok := (List.cons.inj (List.append_cancel_left htail)).2
  obtain ⟨hok, -⟩ := Text.toDigits_append_inj (by decide) (List.append_cancel_left hok)
  exact ⟨hok.symm, hfailed.symm⟩

/-- It is not the text of a clean path. -/
theorem bracket_ne_clean (target : IpAddr) (ok failed mtu : Nat) :
    s!"{mtu} byte packets reach {target.display} without fragmentation" ≠
      bracket target ok failed := by
  intro h
  obtain ⟨rest, hright⟩ := toList_bracket target ok failed
  have hleft : (s!"{mtu} byte packets reach {target.display} without fragmentation").toList =
      Nat.toDigits 10 mtu ++ ' ' :: ("byte packets ".toList ++
        'r' :: ("each ".toList ++ target.display.toList ++ " without fragmentation".toList)) := by
    have hdigits : (toString mtu).toList = Nat.toDigits 10 mtu := Nat.toList_repr
    simp only [String.toList_append, hdigits, List.append_assoc]
    rfl
  rw [h, hright] at hleft
  obtain ⟨-, htail⟩ := Text.toDigits_append_inj (by decide) hleft
  exact absurd (List.cons.inj (List.append_cancel_left htail)).1 (by decide)

/-- It is not the text of a path without any reply. -/
theorem bracket_ne_none (target : IpAddr) (ok failed : Nat) (rest : String) :
    "no echo reply from " ++ rest ≠ bracket target ok failed := by
  intro h
  obtain ⟨tail, hright⟩ := toList_bracket target ok failed
  have hleft : ("no echo reply from " ++ rest).toList =
      'n' :: ("o echo reply from ".toList ++ rest.toList) := by
    rw [String.toList_append]
    rfl
  rw [h, hright] at hleft
  cases hdigits : Nat.toDigits 10 failed with
  | nil => exact Nat.toDigits_ne_nil hdigits
  | cons c cs =>
    rw [hdigits, List.cons_append] at hleft
    have hc : c = 'n' := (List.cons.inj hleft).1
    exact Text.toDigits_ne_cons (by decide) cs (hc ▸ hdigits)

section Path

variable {ping : IpAddr → Nat → Nat → ProbeContext → ProbeResult}
  {kernelPathMtu : IpAddr → ProbeContext → Option Nat} {target : IpAddr} {interfaceMtu : Nat}
  {ctx : ProbeContext}

/-- What `discover` tries. -/
def probed (ping : IpAddr → Nat → Nat → ProbeContext → ProbeResult) (target : IpAddr)
    (interfaceMtu : Nat) (ctx : ProbeContext) : Option Nat × Option Nat :=
  search (fun mtu => ping target 1 (payloadForMtu mtu target.isIpv6) ctx)
    (candidateMtus (effectiveMtu interfaceMtu) target.isIpv6) none

/-- The evidence names a size exactly when one got through. -/
theorem measured_discover : measured (discover ping kernelPathMtu target interfaceMtu ctx) =
    (probed ping target interfaceMtu ctx).1.map toString := by
  unfold measured discover probed
  simp only [foldl_with_]
  generalize search _ _ none = outcome
  obtain ⟨_ | ok, _ | failed⟩ := outcome <;> cases kernelPathMtu target ctx <;> rfl

/-- A text with two sizes comes from a search with these. -/
theorem probed_of_bracket {ok failed : Nat}
    (h : (discover ping kernelPathMtu target interfaceMtu ctx).detail =
      bracket target ok failed) :
    probed ping target interfaceMtu ctx = (some ok, some failed) := by
  unfold discover at h
  simp only [foldl_with_] at h
  unfold probed
  generalize search _ _ none = outcome at h
  have hnone : ∀ detail : String, (ProbeResult.failure detail).detail = detail := fun _ => rfl
  obtain ⟨_ | ok', _ | failed'⟩ := outcome
  · rw [hnone, String.append_assoc, String.append_assoc] at h
    exact absurd h (bracket_ne_none target ok failed _)
  · rw [hnone, String.append_assoc, String.append_assoc] at h
    exact absurd h (bracket_ne_none target ok failed _)
  · exact absurd h (bracket_ne_clean target ok failed ok')
  · obtain ⟨rfl, rfl⟩ := bracket_inj h
    rfl

/-- What the headers of an echo add to its payload. -/
def headers (v6 : Bool) : Nat := if v6 then 40 + 8 else 20 + 8

/-- The path to the target answers an echo exactly when it has at most `p` bytes on the
    wire. -/
def Passes (ping : IpAddr → Nat → Nat → ProbeContext → ProbeResult) (target : IpAddr)
    (ctx : ProbeContext) (p : Nat) : Prop :=
  ∀ payload, (ping target 1 payload ctx).ok = true ↔ payload + headers target.isIpv6 ≤ p

/-- The echo for a size has that size on the wire. -/
theorem payloadForMtu_add {c : Nat} (h : floor v6 ≤ c) : payloadForMtu c v6 + headers v6 = c := by
  cases v6 with
  | false =>
    have h : 576 ≤ c := h
    show c - (20 + 8) + (20 + 8) = c
    omega
  | true =>
    have h : 1280 ≤ c := h
    show c - (40 + 8) + (40 + 8) = c
    omega

theorem Passes.echo_ok (hping : Passes ping target ctx p) {c : Nat}
    (hc : c ∈ candidateMtus m target.isIpv6) :
    (ping target 1 (payloadForMtu c target.isIpv6) ctx).ok = true ↔ c ≤ p := by
  rw [hping, payloadForMtu_add (mem_candidateMtus hc).1]

/-- Where the search stops: before the first size that fits. -/
theorem Passes.probed_spec (hping : Passes ping target ctx p) (interfaceMtu : Nat) :
    ∃ before, (∀ c ∈ before, p < c) ∧
      ((∃ ok after, candidateMtus (effectiveMtu interfaceMtu) target.isIpv6 =
            before ++ ok :: after ∧ ok ≤ p ∧
          probed ping target interfaceMtu ctx = (some ok, before.getLast?)) ∨
        (candidateMtus (effectiveMtu interfaceMtu) target.isIpv6 = before ∧
          probed ping target interfaceMtu ctx = (none, before.getLast?))) := by
  obtain ⟨before, hfail, hend⟩ := search_spec
    (fun mtu => ping target 1 (payloadForMtu mtu target.isIpv6) ctx)
    (candidateMtus (effectiveMtu interfaceMtu) target.isIpv6) none
  simp only [Option.or_none] at hend
  -- All that failed before were candidates.
  have hsub : ∀ c ∈ before, c ∈ candidateMtus (effectiveMtu interfaceMtu) target.isIpv6 := by
    intro c hc
    rcases hend with ⟨ok, after, heq, -⟩ | ⟨heq, -⟩
    · rw [heq]
      exact List.mem_append_left _ hc
    · rw [heq]
      exact hc
  refine ⟨before, ?_, ?_⟩
  · intro c hc
    have hnot : ¬ c ≤ p := by
      rw [← hping.echo_ok (hsub c hc)]
      simpa using hfail c hc
    omega
  · rcases hend with ⟨ok, after, heq, hok, hs⟩ | ⟨heq, hs⟩
    · have hmem : ok ∈ candidateMtus (effectiveMtu interfaceMtu) target.isIpv6 := by
        rw [heq]
        simp
      exact .inl ⟨ok, after, heq, (hping.echo_ok hmem).mp hok, hs⟩
    · exact .inr ⟨heq, hs⟩

/-- Two sizes between which the search stopped are next to each other, around `p`. -/
theorem Passes.brackets (hping : Passes ping target ctx p) {ok failed : Nat}
    (h : probed ping target interfaceMtu ctx = (some ok, some failed)) :
    ok ∈ candidateMtus (effectiveMtu interfaceMtu) target.isIpv6 ∧
      failed ∈ candidateMtus (effectiveMtu interfaceMtu) target.isIpv6 ∧ ok ≤ p ∧ p < failed ∧
      ∀ c ∈ candidateMtus (effectiveMtu interfaceMtu) target.isIpv6, ¬ (ok < c ∧ c < failed) := by
  obtain ⟨before, hfail, hend⟩ := hping.probed_spec interfaceMtu
  have hsorted := candidateMtus_pairwise (effectiveMtu interfaceMtu) target.isIpv6
  rcases hend with ⟨ok', after, heq, hok, hs⟩ | ⟨-, hs⟩
  · rw [hs, Prod.mk.injEq, Option.some.injEq] at h
    obtain ⟨rfl, hlast⟩ := h
    obtain ⟨init, rfl⟩ := List.getLast?_eq_some_iff.mp hlast
    rw [heq] at hsorted ⊢
    refine ⟨by simp, by simp, hok, hfail failed (by simp), ?_⟩
    rintro c hc ⟨hlow, hhigh⟩
    rw [List.append_assoc, List.singleton_append] at hsorted hc
    rw [List.pairwise_append, List.pairwise_cons, List.pairwise_cons] at hsorted
    obtain ⟨-, ⟨-, hafter, -⟩, hinit⟩ := hsorted
    -- In front of `failed` the sizes are larger, behind `ok` smaller.
    simp only [List.mem_append, List.mem_cons] at hc
    rcases hc with hc | rfl | rfl | hc
    · have := hinit c hc failed (by simp)
      omega
    · omega
    · omega
    · have := hafter c hc
      omega
  · rw [hs] at h
    cases h

/-- **Path MTU discovery** on a path that passes `p` bytes: which sizes are tried, when it
    succeeds, what a bracket in its report means and when it reports no size. -/
theorem discover_path (hping : Passes ping target ctx p) :
    (candidateMtus (effectiveMtu interfaceMtu) target.isIpv6).Pairwise (· > ·) ∧
    (∀ c ∈ candidateMtus (effectiveMtu interfaceMtu) target.isIpv6,
      floor target.isIpv6 ≤ c ∧ c ≤ effectiveMtu interfaceMtu) ∧
    (floor target.isIpv6 ≤ effectiveMtu interfaceMtu →
      effectiveMtu interfaceMtu ∈ candidateMtus (effectiveMtu interfaceMtu) target.isIpv6) ∧
    ((discover ping kernelPathMtu target interfaceMtu ctx).ok = true ↔
      ∃ c ∈ candidateMtus (effectiveMtu interfaceMtu) target.isIpv6,
        (∀ d ∈ candidateMtus (effectiveMtu interfaceMtu) target.isIpv6, d ≤ c) ∧ c ≤ p) ∧
    (∀ ok failed, (discover ping kernelPathMtu target interfaceMtu ctx).detail =
        bracket target ok failed →
      ok ∈ candidateMtus (effectiveMtu interfaceMtu) target.isIpv6 ∧
        failed ∈ candidateMtus (effectiveMtu interfaceMtu) target.isIpv6 ∧ ok ≤ p ∧ p < failed ∧
        ∀ c ∈ candidateMtus (effectiveMtu interfaceMtu) target.isIpv6, ¬ (ok < c ∧ c < failed)) ∧
    (measured (discover ping kernelPathMtu target interfaceMtu ctx) = none ↔
      ∀ c ∈ candidateMtus (effectiveMtu interfaceMtu) target.isIpv6, p < c) := by
  refine ⟨candidateMtus_pairwise _ _, fun c hc => mem_candidateMtus hc, self_mem_candidateMtus,
    ?_, fun ok failed h => hping.brackets (probed_of_bracket h), ?_⟩
  -- The largest candidate is the effective MTU itself.
  · rw [discover_ok_iff]
    constructor
    · rintro ⟨hfloor, hok⟩
      have hself := self_mem_candidateMtus hfloor
      exact ⟨_, hself, fun d hd => (mem_candidateMtus hd).2, (hping.echo_ok hself).mp hok⟩
    · rintro ⟨c, hc, hmax, hle⟩
      obtain ⟨hlow, hhigh⟩ := mem_candidateMtus hc
      have hself := self_mem_candidateMtus (hlow.trans hhigh)
      have := hmax _ hself
      exact ⟨hlow.trans hhigh, (hping.echo_ok hself).mpr (by omega)⟩
  -- Nothing is measured when every probe from the largest on failed.
  · rw [measured_discover, Option.map_eq_none_iff]
    obtain ⟨before, hfail, hend⟩ := hping.probed_spec interfaceMtu
    rcases hend with ⟨ok, after, heq, hok, hs⟩ | ⟨heq, hs⟩
    · rw [hs, heq]
      constructor
      · intro h
        cases h
      · intro h
        have := h ok (by simp)
        omega
    · rw [hs, heq]
      exact ⟨fun _ => hfail, fun _ => rfl⟩

/-- A path of `p` bytes. -/
def pathOf (p : Nat) (target : IpAddr) (_ payload : Nat) (_ : ProbeContext) : ProbeResult :=
  if payload + headers target.isIpv6 ≤ p then success "replied" else ProbeResult.failure "no reply"

theorem passes_pathOf (p : Nat) (target : IpAddr) (ctx : ProbeContext) :
    Passes (pathOf p) target ctx p := by
  intro payload
  unfold pathOf
  split
  · rename_i hle
    exact ⟨fun _ => hle, fun _ => rfl⟩
  · rename_i hgt
    exact ⟨fun h => (by cases h), fun h => absurd h hgt⟩

/-- A path of 1430 bytes behind an interface of 1500. -/
theorem discover_path_tunnel :
    (discover (pathOf 1430) (fun _ _ => none) (.v4 0x08080808) 0 {}).detail =
        bracket (.v4 0x08080808) 1420 1450 ∧
      1420 ≤ 1430 ∧ 1430 < 1450 ∧
      (discover (pathOf 1430) (fun _ _ => none) (.v4 0x08080808) 0 {}).ok = false := by
  have hpath := @discover_path 1430 (pathOf 1430) (fun _ _ => none) (.v4 0x08080808) 0 {}
    (passes_pathOf 1430 (.v4 0x08080808) {})
  have hdetail : (discover (pathOf 1430) (fun _ _ => none) (.v4 0x08080808) 0 {}).detail =
      bracket (.v4 0x08080808) 1420 1450 := by
    decide +kernel
  obtain ⟨-, -, hle, hlt, -⟩ := hpath.2.2.2.2.1 1420 1450 hdetail
  exact ⟨hdetail, hle, hlt, by decide +kernel⟩

end Path

end Netdiag.Probe.Mtu
