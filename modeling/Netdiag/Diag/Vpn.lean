import Netdiag.Diag.State

namespace Netdiag.Diag

/-!
# Diagnosis — VPN routing

`check_vpn` of `daemon/src/diag/mod.rs`, and when its verdict can be believed.

* `checkVpn` — the check; `checkVpn_status` gives its status in one equation.
* `LeavesBy` / `LeavesAround` — what a kernel lookup says about a family's traffic: out
  through a given tunnel, or through something that is neither an up tunnel nor loopback.
* `checkVpn_trustworthy_iff` — exactly when a good verdict means that nothing leaks.  The
  check combines the families by disjunction and accepts an IPv6 default route through the
  tunnel from *any* table, so one family in the tunnel can hide the other one outside it.
-/

open Netdiag.Probe

/-! ### The check -/

/-- The up tunnels, in list order. -/
def vpnInterfaces (interfaces : List Interface) : List Interface :=
  interfaces.filter Interface.isUpVpn

/-- `framework_vpn`. -/
def frameworkVpn (state : DiagState) : Bool := (state.network.map AndroidNetwork.isVpn).getD false

/-- `egress_is_vpn`: one of the egress interfaces is `vpn`. -/
def egressIsVpn (state : DiagState) (vpn : Interface) : Bool :=
  (state.egressV4.map (fun i => i.index == vpn.index)).getD false ||
    (state.egressV6.map (fun i => i.index == vpn.index)).getD false

/-- A default route of the family through interface `index`, in any table. -/
def defaultThrough (routes : List Route) (family : IpFamily) (index : Nat) : Bool :=
  routes.any (fun r =>
    r.isDefault && r.family == family && r.nextHops.any (fun h => h.outInterfaceIndex == index))

/-- `vpn_table`. -/
def vpnTable (state : DiagState) : Option Nat := state.lookupV4.route.map (·.table)

/-- `ipv6_blackholed`: the table's IPv6 default route points at loopback or nowhere. -/
def ipv6Blackholed (routes : List Route) (table : Option Nat) : Bool :=
  routes.any (fun r =>
    r.isDefault && r.family == .v6 && some r.table == table &&
      r.nextHops.any (fun h => h.outInterfaceName == "lo" || h.outInterfaceIndex == 1)) ||
  routes.any (fun r =>
    r.isDefault && r.family == .v6 && some r.table == table &&
      (r.type == .unreachable || r.type == .blackhole || r.type == .prohibit))

/-- What the check says of traffic that does not enter the tunnel. -/
def routedAround (name : String) : String :=
  name ++ " is up but this traffic does not go through it; it is being routed around the VPN"

/-- `check_vpn`. -/
def checkVpn (state : DiagState) : Report .vpnRouting :=
  let vpnIfaces := vpnInterfaces state.interfaces
  let builder := CheckBuilder.new .vpnRouting "VPN routing"
    |>.ev "vpn_interfaces" (", ".intercalate (vpnIfaces.map (·.name)))
    |>.ev "framework_reports_vpn" (toString (frameworkVpn state))
  match vpnIfaces with
  | [] =>
    if !frameworkVpn state then builder.skip "no VPN is active"
    else
      builder.fail
        "the framework reports a VPN transport but no tun interface is up in the kernel"
  -- Of several tunnels the first one stands for "the VPN".
  | vpn :: _ =>
    let egress := egressIsVpn state vpn
    let vpnDefaultV6 := defaultThrough state.routes .v6 vpn.index
    let vpnDefaultV4 := defaultThrough state.routes .v4 vpn.index
    let blackholed := ipv6Blackholed state.routes (vpnTable state)
    let builder := builder
      |>.ev "egress_is_vpn" (toString egress)
      |>.ev "vpn_has_ipv6_routes" (toString vpnDefaultV6)
      |>.ev "vpn_default_route_v4" (toString vpnDefaultV4)
      |>.ev "ipv6_blackholed_in_vpn_table" (toString blackholed)
      |>.ev "vpn_table" (((vpnTable state).map toString).getD "?")
    -- `egress` is true as soon as one family leaves by the tunnel.
    if !egress then builder.warn (routedAround vpn.name)
    else if !vpnDefaultV6 then
      -- Android keeps IPv6 from leaking around an IPv4-only VPN by a route to loopback.
      if blackholed then
        builder.info (vpn.name ++ " carries IPv4 only, and IPv6 is deliberately blackholed " ++
          "inside the VPN's routing table; applications fall back to IPv4 cleanly and nothing " ++
          "leaks")
      else
        builder.warn (vpn.name ++ " carries IPv4 but has no IPv6 default route and IPv6 is " ++
          "not blackholed; IPv6 traffic may leave outside the tunnel")
    else
      builder.pass ("traffic is routed through " ++ vpn.name ++ ", for both IPv4 and IPv6")

/-- **The verdict in one equation**: which tunnel is looked at, and what decides. -/
theorem checkVpn_status (state : DiagState) :
    (checkVpn state).check.status =
      match vpnInterfaces state.interfaces with
      | [] => if frameworkVpn state then .fail else .skip
      | vpn :: _ =>
        if !egressIsVpn state vpn then .warn
        else if defaultThrough state.routes .v6 vpn.index then .pass
        else if ipv6Blackholed state.routes (vpnTable state) then .info
        else .warn := by
  unfold checkVpn
  dsimp only
  cases vpnInterfaces state.interfaces with
  | nil =>
    cases frameworkVpn state with
    | false => rfl
    | true => rfl
  -- By the route of the tunnel, then its IPv6 default, then its IPv6 blackhole.
  | cons vpn rest =>
    dsimp only
    cases egressIsVpn state vpn with
    | false => rfl
    | true =>
      cases defaultThrough state.routes .v6 vpn.index with
      | true => rfl
      | false =>
        cases ipv6Blackholed state.routes (vpnTable state) with
        | true => rfl
        | false => rfl

/-- What the check files about the first up tunnel. -/
theorem checkVpn_evidence (state : DiagState) {field : String} {value : Interface → String}
    (first : ∀ vpn rest, vpnInterfaces state.interfaces = vpn :: rest →
      ∀ b : CheckBuilder .vpnRouting,
        (b |>.ev "egress_is_vpn" (toString (egressIsVpn state vpn))
          |>.ev "vpn_has_ipv6_routes" (toString (defaultThrough state.routes .v6 vpn.index))
          |>.ev "vpn_default_route_v4" (toString (defaultThrough state.routes .v4 vpn.index))
          |>.ev "ipv6_blackholed_in_vpn_table"
            (toString (ipv6Blackholed state.routes (vpnTable state)))
          |>.ev "vpn_table" (((vpnTable state).map toString).getD "?")).check.evidenceOf field =
        some (value vpn))
    (interfaces : field ≠ "vpn_interfaces") (framework : field ≠ "framework_reports_vpn") :
    (checkVpn state).check.evidenceOf field =
      (vpnInterfaces state.interfaces).head?.map value := by
  unfold checkVpn
  cases vpns : vpnInterfaces state.interfaces with
  | nil =>
    dsimp only
    split_ifs
    · simp [CheckBuilder.skip, interfaces, framework]
    · simp [CheckBuilder.fail, interfaces, framework]
  | cons vpn rest =>
    -- Whichever way the check ends, the evidence was filed before.
    have filed := first vpn rest vpns
    dsimp only
    split_ifs
    · exact filed _
    · exact filed _
    · exact filed _
    · exact filed _

/-- The evidence `rule_vpn_leak` reads: whether an egress interface is the first up tunnel. -/
theorem checkVpn_egress_evidence (state : DiagState) :
    (checkVpn state).check.evidenceOf "egress_is_vpn" =
      (vpnInterfaces state.interfaces).head?.map (fun vpn => toString (egressIsVpn state vpn)) := by
  refine checkVpn_evidence state ?_ (by decide) (by decide)
  intro vpn rest _ b
  simp

/-- The evidence `rule_vpn_ipv6_blackhole` reads: whether the tunnel has IPv6 routes. -/
theorem checkVpn_ipv6_evidence (state : DiagState) :
    (checkVpn state).check.evidenceOf "vpn_has_ipv6_routes" =
      (vpnInterfaces state.interfaces).head?.map
        (fun vpn => toString (defaultThrough state.routes .v6 vpn.index)) := by
  refine checkVpn_evidence state ?_ (by decide) (by decide)
  intro vpn rest _ b
  simp

/-- And whether the VPN's table blackholes IPv6. -/
theorem checkVpn_blackholed_evidence (state : DiagState) :
    (checkVpn state).check.evidenceOf "ipv6_blackholed_in_vpn_table" =
      (vpnInterfaces state.interfaces).head?.map
        (fun _ => toString (ipv6Blackholed state.routes (vpnTable state))) := by
  refine checkVpn_evidence state ?_ (by decide) (by decide)
  intro vpn rest _ b
  simp

/-- The tunnel the check looks at is the first up one of the list. -/
theorem vpnInterfaces_eq_cons {interfaces rest : List Interface} {vpn : Interface}
    (h : vpnInterfaces interfaces = vpn :: rest) : vpn ∈ interfaces ∧ vpn.isUpVpn = true := by
  have mem : vpn ∈ vpnInterfaces interfaces := h ▸ List.mem_cons_self
  exact List.mem_filter.mp mem

/-! ### Where the kernel sends a family -/

/-- The lookup leaves through the interface numbered `index`. -/
def LeavesBy (index : Nat) (lookup : RouteLookup) : Prop :=
  ∃ hop, firstHop lookup = some hop ∧ hop.outInterfaceIndex = index

/-- The lookup leaves through an interface that is neither an up tunnel nor loopback.  Index
    zero names no interface. -/
def LeavesAround (interfaces : List Interface) (lookup : RouteLookup) : Prop :=
  ∃ hop, firstHop lookup = some hop ∧ hop.outInterfaceIndex ≠ 0 ∧
    ∀ i ∈ interfaces, i.index = hop.outInterfaceIndex → i.isUpVpn = false ∧ i.kind ≠ .loopback

/-- A lookup goes one way only. -/
theorem LeavesBy.not_around {interfaces : List Interface} {lookup : RouteLookup} {vpn : Interface}
    (h : LeavesBy vpn.index lookup) (mem : vpn ∈ interfaces) (up : vpn.isUpVpn = true) :
    ¬ LeavesAround interfaces lookup := by
  obtain ⟨hop, first, index⟩ := h
  rintro ⟨hop', first', -, outside⟩
  rw [first, Option.some.injEq] at first'
  subst first'
  have down := (outside vpn mem index.symm).1
  rw [up] at down
  exact absurd down (by decide)

/-- The egress interface has the index of a listed one exactly when the lookup leaves by it. -/
theorem egressInterface_index_iff {interfaces : List Interface} {vpn : Interface}
    (lookup : RouteLookup) (mem : vpn ∈ interfaces) :
    ((egressInterface lookup interfaces).map (fun i => i.index == vpn.index)).getD false = true ↔
      LeavesBy vpn.index lookup := by
  unfold egressInterface LeavesBy
  cases firstHop lookup with
  | none => simp
  | some hop =>
    simp only [Option.bind_some, Option.some.injEq, exists_eq_left']
    constructor
    · intro h
      cases found : interfaces.find? (fun i => i.index == hop.outInterfaceIndex) with
      | none => simp [found] at h
      | some i =>
        have index := List.find?_some found
        simp only [found, Option.map_some, Option.getD_some, beq_iff_eq] at h index
        omega
    · intro h
      -- `vpn` itself answers the search, so it does not come back empty.
      have some_ : (interfaces.find? (fun i => i.index == hop.outInterfaceIndex)).isSome :=
        List.find?_isSome.mpr ⟨vpn, mem, by simp [h]⟩
      obtain ⟨i, found⟩ := Option.isSome_iff_exists.mp some_
      have index := List.find?_some found
      simp only [beq_iff_eq] at index
      rw [found, Option.map_some, Option.getD_some, beq_iff_eq, index, h]

/-- Of a gathered state, `egress_is_vpn` says that a family's lookup leaves by the tunnel. -/
theorem Gathered.egressIsVpn_iff (s : Gathered) {vpn : Interface} (mem : vpn ∈ s.interfaces) :
    egressIsVpn s.toDiagState vpn = true ↔
      LeavesBy vpn.index s.lookupV4 ∨ LeavesBy vpn.index s.lookupV6 := by
  unfold egressIsVpn
  rw [Bool.or_eq_true, s.egressV4_eq, s.egressV6_eq, egressInterface_index_iff _ mem,
    egressInterface_index_iff _ mem]

/-! ### When a good verdict is true -/

/-- One family leaves by the tunnel while the other one leaves around every tunnel. -/
def Split (s : DiagState) (vpn : Interface) : Prop :=
  (LeavesBy vpn.index s.lookupV4 ∧ LeavesAround s.interfaces s.lookupV6) ∨
    (LeavesBy vpn.index s.lookupV6 ∧ LeavesAround s.interfaces s.lookupV4)

/-- Some IPv6 default route, whatever its table, goes through interface `index`. -/
def HasIpv6Default (routes : List Route) (index : Nat) : Prop :=
  ∃ r ∈ routes, r.isDefault = true ∧ r.family = .v6 ∧
    ∃ h ∈ r.nextHops, h.outInterfaceIndex = index

/-- The IPv6 default route of `table` goes to loopback or is one that drops. -/
def HasIpv6Blackhole (routes : List Route) (table : Option Nat) : Prop :=
  ∃ r ∈ routes, r.isDefault = true ∧ r.family = .v6 ∧ some r.table = table ∧
    ((∃ h ∈ r.nextHops, h.outInterfaceName = "lo" ∨ h.outInterfaceIndex = 1) ∨
      r.type = .unreachable ∨ r.type = .blackhole ∨ r.type = .prohibit)

theorem defaultThrough_v6_iff (routes : List Route) (index : Nat) :
    defaultThrough routes .v6 index = true ↔ HasIpv6Default routes index := by
  unfold defaultThrough HasIpv6Default
  simp only [List.any_eq_true, Bool.and_eq_true, beq_iff_eq, and_assoc]

theorem ipv6Blackholed_iff (routes : List Route) (table : Option Nat) :
    ipv6Blackholed routes table = true ↔ HasIpv6Blackhole routes table := by
  unfold ipv6Blackholed HasIpv6Blackhole
  simp only [Bool.or_eq_true, List.any_eq_true, Bool.and_eq_true, beq_iff_eq, and_assoc]
  constructor
  · rintro (⟨r, mem, dflt, v6, table, hop⟩ | ⟨r, mem, dflt, v6, table, type⟩)
    · exact ⟨r, mem, dflt, v6, table, Or.inl hop⟩
    · exact ⟨r, mem, dflt, v6, table, Or.inr (or_assoc.mp type)⟩
  · rintro ⟨r, mem, dflt, v6, table, hop | type⟩
    · exact Or.inl ⟨r, mem, dflt, v6, table, hop⟩
    · exact Or.inr ⟨r, mem, dflt, v6, table, or_assoc.mpr type⟩

/-- A good verdict, spelled out: some family leaves by the first up tunnel, and IPv6 has a
    default route through it or is blackholed. -/
theorem checkVpn_good_iff (s : Gathered) :
    ((checkVpn s.toDiagState).check.status = .pass ∨
        (checkVpn s.toDiagState).check.status = .info) ↔
      ∃ vpn, (vpnInterfaces s.interfaces).head? = some vpn ∧
        (LeavesBy vpn.index s.lookupV4 ∨ LeavesBy vpn.index s.lookupV6) ∧
        (HasIpv6Default s.routes vpn.index ∨ HasIpv6Blackhole s.routes (vpnTable s.toDiagState)) := by
  rw [checkVpn_status]
  cases vpns : vpnInterfaces s.interfaces with
  | nil =>
    cases frameworkVpn s.toDiagState with
    | false => simp
    | true => simp
  | cons vpn rest =>
    have mem := (vpnInterfaces_eq_cons vpns).1
    simp only [List.head?_cons, Option.some.injEq, exists_eq_left']
    rw [← s.egressIsVpn_iff mem, ← defaultThrough_v6_iff, ← ipv6Blackholed_iff]
    cases egressIsVpn s.toDiagState vpn with
    | false => simp
    | true =>
      cases defaultThrough s.routes .v6 vpn.index with
      | true => simp
      | false =>
        cases ipv6Blackholed s.routes (vpnTable s.toDiagState) with
        | true => simp
        | false => simp

/-- **When a good verdict means no leak.**  Of a gathered state, `Pass` or `Info` implies that
    neither family leaves around the tunnel exactly when, should one family leave by the
    first up tunnel and the other around it, no IPv6 default route goes through that tunnel
    and the IPv4 lookup's table does not blackhole IPv6. -/
theorem checkVpn_trustworthy_iff (s : Gathered) :
    ((checkVpn s.toDiagState).check.status = .pass ∨
        (checkVpn s.toDiagState).check.status = .info →
      ¬ LeavesAround s.interfaces s.lookupV4 ∧ ¬ LeavesAround s.interfaces s.lookupV6) ↔
    ∀ vpn, (vpnInterfaces s.interfaces).head? = some vpn → Split s.toDiagState vpn →
      ¬ HasIpv6Default s.routes vpn.index ∧
        ¬ HasIpv6Blackhole s.routes (vpnTable s.toDiagState) := by
  rw [checkVpn_good_iff]
  constructor
  · intro trust vpn first split
    -- A split state leaks, so the premise of the verdict must fail: not for want of egress.
    have bad : ¬ (HasIpv6Default s.routes vpn.index ∨
        HasIpv6Blackhole s.routes (vpnTable s.toDiagState)) := by
      intro routes
      rcases split with ⟨by_, around⟩ | ⟨by_, around⟩
      · exact (trust ⟨vpn, first, Or.inl by_, routes⟩).2 around
      · exact (trust ⟨vpn, first, Or.inr by_, routes⟩).1 around
    exact not_or.mp bad
  · rintro cond ⟨vpn, first, egress, routes⟩
    obtain ⟨rest, cons⟩ := List.head?_eq_some_iff.mp first
    obtain ⟨mem, up⟩ := vpnInterfaces_eq_cons cons
    -- A good verdict has the routes a split state may not have.
    have unsplit : ¬ Split s.toDiagState vpn := by
      intro split
      have := cond vpn first split
      tauto
    constructor
    · intro around
      rcases egress with by_ | by_
      · exact by_.not_around mem up around
      · exact unsplit (Or.inr ⟨by_, around⟩)
    · intro around
      rcases egress with by_ | by_
      · exact unsplit (Or.inl ⟨by_, around⟩)
      · exact by_.not_around mem up around

/-- IPv4 goes into the tunnel.  The tunnel's table has an IPv6 default route as well, but the
    IPv6 lookup follows another table and leaves by Wi-Fi. -/
def splitTunnel : Gathered where
  toDiagState :=
    let lo : Interface :=
      { index := 1, name := "lo", kind := .loopback, flags := some { up := true } }
    let wlan0 : Interface :=
      { index := 3, name := "wlan0", kind := .wifi, flags := some { up := true } }
    let tun0 : Interface :=
      { index := 5, name := "tun0", kind := .vpnTun, flags := some { up := true } }
    let byTun0 (family : IpFamily) : Route :=
      { family, table := 1005, isDefault := true,
        nextHops := [{ outInterfaceIndex := 5, outInterfaceName := "tun0" }] }
    let byWlan0 : Route :=
      { family := .v6, table := 1003, isDefault := true,
        nextHops := [{ outInterfaceIndex := 3, outInterfaceName := "wlan0" }] }
    { emptyState with
      interfaces := [lo, wlan0, tun0]
      routes := [byWlan0, byTun0 .v4, byTun0 .v6]
      lookupV4 := { route := some (byTun0 .v4) }
      lookupV6 := { route := some byWlan0 }
      egressV4 := some tun0
      egressV6 := some wlan0 }
  indexes_nodup := by decide
  egressV4_eq := by decide
  egressV6_eq := by decide

/-- There the check reports both families in the tunnel while IPv6 leaves by Wi-Fi. -/
theorem splitTunnel_passes :
    ¬ ∀ s : Gathered,
      (checkVpn s.toDiagState).check.status = .pass ∨
          (checkVpn s.toDiagState).check.status = .info →
        ¬ LeavesAround s.interfaces s.lookupV4 ∧ ¬ LeavesAround s.interfaces s.lookupV6 := by
  intro trust
  have passes : (checkVpn splitTunnel.toDiagState).check.status = .pass := by
    rw [checkVpn_status]
    decide
  have around : LeavesAround splitTunnel.interfaces splitTunnel.lookupV6 :=
    ⟨{ outInterfaceIndex := 3, outInterfaceName := "wlan0" }, rfl, by decide, by decide⟩
  exact (trust splitTunnel (Or.inl passes)).2 around

end Netdiag.Diag
