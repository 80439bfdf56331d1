import Netdiag.Diag.Rules
import Netdiag.Diag.Vpn
import Netdiag.Correlate.Vpn

namespace Netdiag.Correlate

/-!
# Per-app view — agreement with the diagnosis

`check_vpn`, `rule_vpn_leak` and `assess_vpn` each decide whether traffic goes through "the"
VPN.  All three mean the first up tunnel of the interface list.

* `ThroughSomeVpn` / `ThroughFirstVpn` — the kernel sends a family through an up tunnel, or
  through the first one.
* `Recognised` — none of the three verdicts denies that the VPN is used.
* `recognised_iff` — traffic through a tunnel is recognised exactly when the first tunnel
  carries some of it; a second tunnel goes unseen.
* `assessVpn_checkVpn` — on a gathered state `assess_vpn` and `check_vpn` agree on whether there
  is a VPN, on which interface it is and on whether traffic uses it.
-/

open Netdiag.Diag

/-! ### What each verdict looks at -/

/-- `assess_vpn` sees a lookup leave by an interface exactly when it does. -/
theorem inVpn_iff (lookup : RouteLookup) (index : Nat) :
    inVpn lookup index = true ↔ LeavesBy index lookup := by
  unfold inVpn LeavesBy
  cases firstHop lookup with
  | none => simp
  | some hop => simp

/-- **`assess_vpn` asks about the first up tunnel.** -/
theorem assessVpn_appUsesVpn_iff (interfaces : List Interface) (rules : List RoutingRule)
    (vpnTables : List Nat) (uid : Nat) (lookupV4 lookupV6 : RouteLookup)
    (androidState : Option AndroidNetworkState) :
    (assessVpn interfaces rules vpnTables uid lookupV4 lookupV6 androidState).appUsesVpn = true ↔
      ∃ vpn, (vpnInterfaces interfaces).head? = some vpn ∧
        (LeavesBy vpn.index lookupV4 ∨ LeavesBy vpn.index lookupV6) := by
  unfold assessVpn vpnInterfaces
  rw [List.head?_filter]
  cases interfaces.find? Interface.isUpVpn with
  | none => simp
  | some vpn => simp [inVpn_iff]

/-! ### The words of a bypass -/

/-- The last character of a text. -/
private def lastChar (text : String) : Option Char := text.toList.getLast?

private theorem lastChar_append (a b : String) (c : Char) (h : lastChar b = some c) :
    lastChar (a ++ b) = some c := by
  unfold lastChar at h ⊢
  rw [String.toList_append, List.getLast?_append, h, Option.some_or]

/-- A text that ends in another letter is not the one of a bypass. -/
private theorem ne_routedAround {text : String} {c : Char} (h : lastChar text = some c)
    (ne : c ≠ 'N') (name : String) : text ≠ routedAround name := by
  intro eq
  have ending : lastChar (routedAround name) = some 'N' :=
    lastChar_append _ _ _ (by decide +kernel)
  rw [← eq, h, Option.some.injEq] at ending
  exact ne ending

/-- **`check_vpn` speaks of a bypass exactly when neither egress interface is the first up
    tunnel.** -/
theorem checkVpn_routedAround_iff (state : DiagState) :
    (∃ name, (checkVpn state).check.detail = routedAround name) ↔
      ∃ vpn, (vpnInterfaces state.interfaces).head? = some vpn ∧ egressIsVpn state vpn = false := by
  unfold checkVpn
  cases vpnInterfaces state.interfaces with
  | nil =>
    dsimp only
    have none_ : ¬ ∃ vpn, ([] : List Interface).head? = some vpn ∧ egressIsVpn state vpn = false := by
      simp
    rw [iff_false_right none_]
    -- No other detail of the check reads like this one.
    rintro ⟨name, detail⟩
    split_ifs at detail
    · have text : "no VPN is active" = routedAround name := detail
      exact ne_routedAround (c := 'e') (by decide +kernel) (by decide) name text
    · have text : "the framework reports a VPN transport but no tun interface is up in the kernel"
          = routedAround name := detail
      exact ne_routedAround (c := 'l') (by decide +kernel) (by decide) name text
  | cons vpn rest =>
    dsimp only
    simp only [List.head?_cons, Option.some.injEq, exists_eq_left']
    cases egressIsVpn state vpn with
    | false => exact iff_of_true ⟨vpn.name, rfl⟩ rfl
    | true =>
      refine iff_of_false ?_ (by decide)
      rintro ⟨name, detail⟩
      simp only [Bool.not_true, Bool.false_eq_true, if_false] at detail
      split_ifs at detail
      · exact ne_routedAround (lastChar_append _ _ 's' (by decide +kernel)) (by decide) name detail
      · exact ne_routedAround (lastChar_append _ _ 'l' (by decide +kernel)) (by decide) name detail
      · exact ne_routedAround (lastChar_append _ _ '6' (by decide +kernel)) (by decide) name detail

/-! ### Traffic through a tunnel -/

/-- The lookup leaves through one of the up tunnels. -/
def LeavesByVpn (interfaces : List Interface) (lookup : RouteLookup) : Prop :=
  ∃ vpn ∈ interfaces, vpn.isUpVpn = true ∧ LeavesBy vpn.index lookup

/-- The kernel sends some family through an up tunnel. -/
def ThroughSomeVpn (state : DiagState) : Prop :=
  LeavesByVpn state.interfaces state.lookupV4 ∨ LeavesByVpn state.interfaces state.lookupV6

/-- The kernel sends some family through the first up tunnel of the list. -/
def ThroughFirstVpn (state : DiagState) : Prop :=
  ∃ vpn, (vpnInterfaces state.interfaces).head? = some vpn ∧
    (LeavesBy vpn.index state.lookupV4 ∨ LeavesBy vpn.index state.lookupV6)

/-- The diagnosis does not call the traffic routed around the VPN, no evaluation of its check
    reports a leak, and the per-app view says that the VPN is used. -/
def Recognised (state : DiagState) : Prop :=
  (¬ ∃ name, (checkVpn state).check.detail = routedAround name) ∧
  (∀ checks, (⟨checks⟩ : CheckIndex).get "vpn.routing" = some (checkVpn state).check →
    ¬ ∃ f ∈ evaluate checks state, f.id = .vpnLeak) ∧
  ∀ rules vpnTables uid androidState,
    (assessVpn state.interfaces rules vpnTables uid state.lookupV4 state.lookupV6
      androidState).appUsesVpn = true

/-- The leak rule fires only on an egress interface that is not the tunnel. -/
theorem evidence_of_vpnLeak {checks : List Check} {state : DiagState}
    (reported : ∃ f ∈ evaluate checks state, f.id = .vpnLeak) :
    (⟨checks⟩ : CheckIndex).evidence "vpn.routing" "egress_is_vpn" = some "false" := by
  have rule : (.vpnLeak, ruleVpnLeak) ∈ rules := by simp [rules]
  rw [evaluate_reports_iff rule] at reported
  simp only [ruleVpnLeak, isSome_guard, bne_iff_ne, ne_eq, not_not] at reported
  exact reported.1

/-- Traffic through the first tunnel is recognised. -/
theorem recognised_of_first (s : Gathered) (first : ThroughFirstVpn s.toDiagState) :
    Recognised s.toDiagState := by
  obtain ⟨vpn, head, leaves⟩ := first
  obtain ⟨rest, cons⟩ := List.head?_eq_some_iff.mp head
  have egress := (s.egressIsVpn_iff (vpnInterfaces_eq_cons cons).1).mpr leaves
  refine ⟨?_, ?_, ?_⟩
  · rw [checkVpn_routedAround_iff]
    rintro ⟨vpn', head', around⟩
    rw [head, Option.some.injEq] at head'
    subst head'
    rw [egress] at around
    exact absurd around (by decide)
  · intro checks filed reported
    have evidence := evidence_of_vpnLeak reported
    unfold CheckIndex.evidence at evidence
    rw [filed, Option.bind_some, checkVpn_egress_evidence, head, Option.map_some, egress] at evidence
    exact absurd evidence (by decide)
  · intro rules vpnTables uid androidState
    rw [assessVpn_appUsesVpn_iff]
    exact ⟨vpn, head, leaves⟩

/-- **Which VPN traffic is recognised.**  Of a gathered state, traffic through an up tunnel is
    recognised by all three verdicts exactly when, if there is any, the first up tunnel of the
    list carries some of it. -/
theorem recognised_iff (s : Gathered) :
    (ThroughSomeVpn s.toDiagState → Recognised s.toDiagState) ↔
      (ThroughSomeVpn s.toDiagState → ThroughFirstVpn s.toDiagState) := by
  apply imp_congr_right
  intro _
  constructor
  · rintro ⟨-, -, uses⟩
    exact (assessVpn_appUsesVpn_iff _ [] [] 0 _ _ none).mp (uses [] [] 0 none)
  · exact recognised_of_first s

/-- Two tunnels are up and all traffic leaves by the second one. -/
def secondTunnel : Gathered where
  toDiagState :=
    let tun0 : Interface :=
      { index := 5, name := "tun0", kind := .vpnTun, flags := some { up := true } }
    let tun1 : Interface :=
      { index := 6, name := "tun1", kind := .vpnTun, flags := some { up := true } }
    let byTun1 (family : IpFamily) : Route :=
      { family, table := 1006, isDefault := true,
        nextHops := [{ outInterfaceIndex := 6, outInterfaceName := "tun1" }] }
    { emptyState with
      interfaces := [tun0, tun1]
      routes := [byTun1 .v4, byTun1 .v6]
      lookupV4 := { route := some (byTun1 .v4) }
      lookupV6 := { route := some (byTun1 .v6) }
      egressV4 := some tun1
      egressV6 := some tun1 }
  indexes_nodup := by decide
  egressV4_eq := by decide
  egressV6_eq := by decide

/-- There the traffic is in a tunnel and reported as routed around the VPN. -/
theorem second_tunnel_goes_unseen :
    ¬ ∀ s : Gathered, ThroughSomeVpn s.toDiagState → Recognised s.toDiagState := by
  intro recognised
  have through : ThroughSomeVpn secondTunnel.toDiagState :=
    Or.inl ⟨_, .tail _ (.head _), rfl, _, rfl, rfl⟩
  have around := (recognised secondTunnel through).1
  rw [checkVpn_routedAround_iff] at around
  exact around ⟨_, rfl, by decide⟩

/-! ### The per-app view and the check -/

/-- What `check_vpn` says of the tunnel it tests, in its four cases. -/
def tunnelDetails (name : String) : List String :=
  [routedAround name,
   name ++ " carries IPv4 only, and IPv6 is deliberately blackholed " ++
     "inside the VPN's routing table; applications fall back to IPv4 cleanly and nothing " ++
     "leaks",
   name ++ " carries IPv4 but has no IPv6 default route and IPv6 is " ++
     "not blackholed; IPv6 traffic may leave outside the tunnel",
   "traffic is routed through " ++ name ++ ", for both IPv4 and IPv6"]

/-- The check names the first up tunnel. -/
theorem checkVpn_detail {state : DiagState} {vpn : Interface} {rest : List Interface}
    (vpns : vpnInterfaces state.interfaces = vpn :: rest) :
    (checkVpn state).check.detail ∈ tunnelDetails vpn.name := by
  unfold checkVpn
  rw [vpns]
  dsimp only
  split_ifs
  · exact List.mem_cons_self
  · exact List.mem_cons_of_mem _ List.mem_cons_self
  · exact List.mem_cons_of_mem _ (List.mem_cons_of_mem _ List.mem_cons_self)
  · exact List.mem_cons_of_mem _ (List.mem_cons_of_mem _ (List.mem_cons_of_mem _ List.mem_cons_self))

/-- `assess_vpn` looks at the tunnel `check_vpn` looks at. -/
theorem assessVpn_of_cons {interfaces rest : List Interface} {vpn : Interface}
    (vpns : vpnInterfaces interfaces = vpn :: rest) (rules : List RoutingRule)
    (vpnTables : List Nat) (uid : Nat) (lookupV4 lookupV6 : RouteLookup)
    (androidState : Option AndroidNetworkState) :
    let a := assessVpn interfaces rules vpnTables uid lookupV4 lookupV6 androidState
    a.vpnPresent = true ∧ a.vpnInterface = vpn.name ∧
      a.appUsesVpn = (inVpn lookupV4 vpn.index || inVpn lookupV6 vpn.index) := by
  have found : interfaces.find? Interface.isUpVpn = some vpn := by
    rw [← List.head?_filter]
    show (vpnInterfaces interfaces).head? = some vpn
    rw [vpns, List.head?_cons]
  simp [assessVpn, found]

/-- Without an up tunnel the assessment is the default one. -/
theorem assessVpn_of_nil {interfaces : List Interface} (vpns : vpnInterfaces interfaces = [])
    (rules : List RoutingRule) (vpnTables : List Nat) (uid : Nat)
    (lookupV4 lookupV6 : RouteLookup) (androidState : Option AndroidNetworkState) :
    assessVpn interfaces rules vpnTables uid lookupV4 lookupV6 androidState = {} := by
  have found : interfaces.find? Interface.isUpVpn = none := by
    rw [← List.head?_filter]
    show (vpnInterfaces interfaces).head? = none
    rw [vpns, List.head?_nil]
  simp [assessVpn, found]

/-- **The two verdicts are one.**  Of a gathered state, the per-app view has a VPN exactly when
    the check finds an up tunnel; then both name the same interface, and the app uses it
    exactly when the check files that the egress interface is the VPN.  Without a tunnel the
    check files no such evidence. -/
theorem assessVpn_checkVpn (s : Gathered) (rules : List RoutingRule) (vpnTables : List Nat)
    (uid : Nat) (androidState : Option AndroidNetworkState) :
    let a := assessVpn s.interfaces rules vpnTables uid s.lookupV4 s.lookupV6 androidState
    let check := (checkVpn s.toDiagState).check
    (a.vpnPresent = true ↔ vpnInterfaces s.interfaces ≠ []) ∧
    (∀ vpn rest, vpnInterfaces s.interfaces = vpn :: rest →
      a.vpnInterface = vpn.name ∧ check.detail ∈ tunnelDetails vpn.name) ∧
    (check.evidenceOf "egress_is_vpn" =
      if a.vpnPresent then some (toString a.appUsesVpn) else none) ∧
    (a.vpnPresent = false → a.appUsesVpn = false) := by
  intro a check
  cases vpns : vpnInterfaces s.interfaces with
  | nil =>
    have default : a = {} := assessVpn_of_nil vpns ..
    have evidence : check.evidenceOf "egress_is_vpn" = none := by
      rw [checkVpn_egress_evidence, vpns]
      rfl
    rw [default, evidence]
    simp
  | cons vpn rest =>
    have mem := (vpnInterfaces_eq_cons vpns).1
    obtain ⟨present, interface, uses⟩ : a.vpnPresent = true ∧ a.vpnInterface = vpn.name ∧
        a.appUsesVpn = (inVpn s.lookupV4 vpn.index || inVpn s.lookupV6 vpn.index) :=
      assessVpn_of_cons vpns ..
    -- The lookup through the interface list cannot miss the tunnel, which is in the list.
    have same : egressIsVpn s.toDiagState vpn = a.appUsesVpn := by
      rw [Bool.eq_iff_iff, s.egressIsVpn_iff mem, uses, Bool.or_eq_true, inVpn_iff, inVpn_iff]
    have evidence : check.evidenceOf "egress_is_vpn" = some (toString a.appUsesVpn) := by
      rw [checkVpn_egress_evidence, vpns, List.head?_cons, Option.map_some, same]
    refine ⟨?_, ?_, ?_, ?_⟩
    · rw [present]
      simp
    · intro vpn' rest' cons
      obtain ⟨rfl, rfl⟩ := List.cons.inj cons
      exact ⟨interface, checkVpn_detail vpns⟩
    · rw [evidence, present, if_pos rfl]
    · intro absent
      rw [present] at absent
      exact absurd absent (by decide)

end Netdiag.Correlate
