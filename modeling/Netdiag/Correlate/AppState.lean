import Netdiag.Correlate.Vpn
import Netdiag.Diag.Structural
import Netdiag.Collect.Sockets
import Mathlib.Data.List.Destutter

namespace Netdiag.Correlate

/-!
# Per-app view — one app's network state

`app_network_state` of `daemon/src/correlate.rs`: an app's traffic from its uid down to the
interface it leaves by.

* `KernelView` — what the collectors return when they are asked.
* `appNetworkState` — the whole view.  Missing data become defaults on the way: a skipped
  lookup is an empty `RouteLookup`, a missing framework state an empty opinion.
* `Evidenced` — the VPN verdicts rest on data that was there.
* `appNetworkState_evidenced_iff` — exactly when they do.
-/

open Netdiag.Diag

/-! ### Inputs -/

/-- `AppRef`. -/
structure AppRef where
  packageName : String := ""
  uid : Nat := 0
  label : String := ""
  isSystem : Bool := false
  deriving DecidableEq, Repr

/-- What the collectors return: the rules, the route the kernel chooses for a destination
    and a uid, the default routes (`get_routes` is asked for no others), the sockets and netd's
    map. -/
structure KernelView where
  rules : Except Ipc.Error (List RoutingRule)
  routeLookup : IpAddr → Nat → RouteLookup
  routes : Except Ipc.Error (List Route)
  sockets : Collect.Kernel
  uidFirewall : Nat → UidFirewallState

/-- `CorrelationInput`. -/
structure CorrelationInput where
  app : AppRef
  androidState : Option AndroidNetworkState := none
  includeTcpInfo : Bool := false
  skipRouteLookup : Bool := false
  deriving DecidableEq, Repr

/-- `PROBE_V4`. -/
def probeV4 : IpAddr := .v4 0x01010101

/-- `PROBE_V6`. -/
def probeV6 : IpAddr := .v6 0x26064700470000000000000000001111

/-! ### The parts -/

/-- `rule_can_match_uid`. -/
def ruleCanMatchUid (rule : RoutingRule) (uid : Nat) : Bool :=
  if !rule.hasUidRange then true
  else
    let inRange := decide (rule.uidRangeStart ≤ uid) && decide (uid ≤ rule.uidRangeEnd)
    if rule.invert then !inRange else inRange

/-- `egress_name`. -/
def egressName (lookup : RouteLookup) : String :=
  ((firstHop lookup).map NextHop.outInterfaceName).getD ""

/-- One more under `id` in the map `counts`. -/
def bumpId (id : Int) : List (Int × Nat) → List (Int × Nat)
  | [] => [(id, 1)]
  | (i, n) :: rest => if i = id then (i, n + 1) :: rest else (i, n) :: bumpId id rest

/-- `observed_net_ids`. -/
def observedNetIds (sockets : List Collect.InetSocket) : List Int :=
  let counts := sockets.foldl (fun counts s =>
    if s.hasMark && s.netId != 0 then bumpId (asI32 s.netId) counts else counts) []
  (counts.mergeSort (fun a b => decide (b.2 < a.2 ∨ (b.2 = a.2 ∧ a.1 ≤ b.1)))).map Prod.fst

/-- `vpn_tables`: the tables with a default route into a tunnel. -/
def vpnTables (kernel : KernelView) (interfaces : List Interface) : List Nat :=
  let vpnIndexes := (interfaces.filter (fun i => i.kind == .vpnTun)).map Interface.index
  if vpnIndexes.isEmpty then []
  else
    match kernel.routes with
    -- Without routes no table is the tunnel's.
    | .error _ => []
    | .ok routes =>
      let tables := (routes.filter (fun r =>
        r.nextHops.any (fun h => vpnIndexes.contains h.outInterfaceIndex))).map Route.table
      (tables.mergeSort (fun a b => decide (a ≤ b))).destutter (· ≠ ·)

/-- The note about the firewall. -/
def firewallNote (firewall : UidFirewallState) : String :=
  if !firewall.sourceAvailable then
    "per-uid firewall state could not be read from netd's eBPF map"
  else if firewall.rawMatch = 0 then "no per-uid firewall rules apply"
  else "firewall bits: " ++ ", ".intercalate (decodeMatchBits firewall.rawMatch)

/-- `build_summary`. -/
def buildSummary (app : AppRef) (egressV4 egressV6 : String) (sockets : Collect.InetSummary)
    (vpn : VpnAssessment) (ipv4Ok ipv6Ok : Bool) : String :=
  let name := if app.packageName = "" then s!"uid {app.uid}" else app.packageName
  let path :=
    match ipv4Ok, ipv6Ok with
    | true, true => s!"IPv4 via {egressV4}, IPv6 via {egressV6}"
    | true, false => s!"IPv4 via {egressV4}, no IPv6 path"
    | false, true => s!"IPv6 via {egressV6}, no IPv4 path"
    | false, false => "no route out for either family"
  let vpnNote :=
    if !vpn.vpnPresent then ""
    else if vpn.appUsesVpn then s!"; goes through {vpn.vpnInterface}"
    else s!"; bypasses {vpn.vpnInterface}"
  s!"{name}: {path}{vpnNote}. {sockets.total} socket(s), {sockets.established} established, " ++
    s!"{sockets.synSent} in SYN_SENT."

/-! ### The view -/

/-- `UidRoutingPath`. -/
structure UidRoutingPath where
  uid : Nat
  matchingRules : List RoutingRule
  lookupV4 : RouteLookup
  lookupV6 : RouteLookup
  egressInterfaceV4 : String
  egressInterfaceV6 : String
  tableV4 : Nat
  tableV6 : Nat
  deriving DecidableEq, Repr

/-- A `Socket` with the package names the view adds. -/
structure AppSocket extends Collect.InetSocket where
  packageNames : List String
  deriving DecidableEq, Repr

/-- `AppNetworkState`. -/
structure AppNetworkState where
  app : AppRef
  androidNetwork : Option AndroidNetwork
  routing : UidRoutingPath
  sockets : List AppSocket
  socketSummary : Collect.InetSummary
  vpn : VpnAssessment
  firewallNote : String
  observedNetIds : List Int
  ipv4PathOk : Bool
  ipv6PathOk : Bool
  summary : String
  deriving DecidableEq, Repr

/-- The network the app's own sockets are pinned to, else the default one. -/
def androidNetwork (androidState : Option AndroidNetworkState) (netIds : List Int) :
    Option AndroidNetwork :=
  androidState.bind (fun state =>
    (netIds.head?.bind (fun netId => state.networks.find? (fun n => n.netId == netId))).or
      (state.networks.find? (fun n => n.isDefault)))

/-- The answer of the kernel about a destination, or the default where it is not asked. -/
def lookupFor (kernel : KernelView) (input : CorrelationInput) (destination : IpAddr) :
    RouteLookup :=
  if input.skipRouteLookup then {} else kernel.routeLookup destination input.app.uid

/-- The filter of the app's own sockets. -/
def appFilter (input : CorrelationInput) : Collect.SocketFilter :=
  { uids := [input.app.uid], includeTcpInfo := input.includeTcpInfo }

/-- `app_network_state`. -/
def appNetworkState (kernel : KernelView) (interfaces : List Interface)
    (ifNames : Nat → Option String) (input : CorrelationInput) :
    Except Ipc.Error AppNetworkState :=
  let uid := input.app.uid
  match kernel.rules with
  | .error e => .error e
  | .ok allRules =>
    -- The rules that may match the uid and select by a uid range or a mark.
    let matchingRules := (allRules.filter (fun r => ruleCanMatchUid r uid)).filter
      (fun r => r.hasUidRange || r.hasFwmark)
    let lookupV4 := lookupFor kernel input probeV4
    let lookupV6 := lookupFor kernel input probeV6
    let egressV4 := egressName lookupV4
    let egressV6 := egressName lookupV6
    let routing : UidRoutingPath :=
      { uid, matchingRules, lookupV4, lookupV6, egressInterfaceV4 := egressV4,
        egressInterfaceV6 := egressV6, tableV4 := (lookupV4.route.map Route.table).getD 0,
        tableV6 := (lookupV6.route.map Route.table).getD 0 }
    -- The app's sockets only: the filter names its uid.
    match Collect.getSockets (appFilter input) ifNames kernel.sockets with
    | .error e => .error e
    | .ok dump =>
      let packageNames := if input.app.packageName = "" then [] else [input.app.packageName]
      -- The marks of these sockets say which network they are bound to.
      let netIds := observedNetIds dump.sockets
      let vpn := assessVpn interfaces allRules (vpnTables kernel interfaces) uid lookupV4 lookupV6
        input.androidState
      let ipv4PathOk := lookupV4.route.isSome
      let ipv6PathOk := lookupV6.route.isSome
      .ok
        { app := input.app
          androidNetwork := androidNetwork input.androidState netIds
          routing
          sockets := dump.sockets.map (fun s => { s with packageNames })
          socketSummary := dump.summary
          vpn
          firewallNote := firewallNote (kernel.uidFirewall uid)
          observedNetIds := netIds
          ipv4PathOk
          ipv6PathOk
          summary := buildSummary input.app egressV4 egressV6 dump.summary vpn ipv4PathOk
            ipv6PathOk }

/-! ### Verdicts and evidence -/

section Evidence

variable (kernel : KernelView) (interfaces : List Interface) (ifNames : Nat → Option String)
  (input : CorrelationInput)

/-- The kernel was asked and returned a route for one of the two destinations. -/
def RouteFound : Prop :=
  input.skipRouteLookup = false ∧
    ((kernel.routeLookup probeV4 input.app.uid).route.isSome = true ∨
      (kernel.routeLookup probeV6 input.app.uid).route.isSome = true)

/-- The app supplied a framework state with a VPN network whose capabilities are known. -/
def FrameworkVpn : Prop :=
  ∃ framework ∈ input.androidState, ∃ n ∈ framework.networks,
    n.isVpn = true ∧ n.capabilities.isSome = true

/-- Each of the two verdicts rests on data that was there. -/
def Evidenced (state : AppNetworkState) : Prop :=
  (state.vpn.disagreement = true → FrameworkVpn input) ∧
    (state.vpn.appBypassesVpn = true → RouteFound kernel input)

/-- The rules and the sockets can be read, so there is a view at all. -/
def Answered : Prop :=
  (∃ rules, kernel.rules = .ok rules) ∧
    ∃ dump, Collect.getSockets (appFilter input) ifNames kernel.sockets = .ok dump

/-- If there is a VPN, then the kernel gave a route, and the framework knows the VPN or the
    route does not go through it. -/
def EvidenceComplete : Prop :=
  ∀ vpn ∈ interfaces.find? Interface.isUpVpn,
    RouteFound kernel input ∧
      (FrameworkVpn input ∨
        (inVpn (lookupFor kernel input probeV4) vpn.index ||
          inVpn (lookupFor kernel input probeV6) vpn.index) = false)

variable {kernel interfaces ifNames input}

/-- The VPN part of the view. -/
theorem appNetworkState_vpn {state : AppNetworkState}
    (h : appNetworkState kernel interfaces ifNames input = .ok state) :
    Answered kernel ifNames input ∧
    ∃ rules tables, state.vpn = assessVpn interfaces rules tables input.app.uid
      (lookupFor kernel input probeV4) (lookupFor kernel input probeV6) input.androidState := by
  unfold appNetworkState at h
  simp only at h
  split at h
  · cases h
  rename_i rules hrules
  split at h
  · cases h
  rename_i dump hdump
  cases Except.ok.inj h
  exact ⟨⟨⟨rules, hrules⟩, dump, hdump⟩, rules, _, rfl⟩

/-- A view there is whenever the rules and the sockets can be read. -/
theorem exists_appNetworkState (h : Answered kernel ifNames input) (interfaces : List Interface) :
    ∃ state, appNetworkState kernel interfaces ifNames input = .ok state := by
  obtain ⟨⟨rules, hrules⟩, dump, hdump⟩ := h
  exact ⟨_, by simp only [appNetworkState, hrules, hdump]; rfl⟩

/-- Without a VPN network of known capabilities the framework has no opinion. -/
theorem frameworkSaysInVpn_imp (rules : List RoutingRule) (tables : List Nat) (uid : Nat)
    (lookupV4 lookupV6 : RouteLookup)
    (h : (assessVpn interfaces rules tables uid lookupV4 lookupV6
      input.androidState).frameworkSaysInVpn = true) : FrameworkVpn input := by
  unfold assessVpn at h
  split at h
  · cases h
  simp only [Option.getD_eq_iff] at h
  obtain hopinion | ⟨_, hfalse⟩ := h
  · obtain ⟨caps, hcaps, _⟩ := Option.map_eq_some_iff.mp hopinion
    obtain ⟨n, hn, hcaps⟩ := Option.bind_eq_some_iff.mp hcaps
    obtain ⟨framework, hframework, hfind⟩ := Option.bind_eq_some_iff.mp hn
    refine ⟨framework, hframework, n, List.mem_of_find?_eq_some hfind, List.find?_some hfind, ?_⟩
    rw [hcaps]
    rfl
  · cases hfalse

/-- A lookup that leaves by some interface returned a route. -/
theorem route_of_inVpn {lookup : RouteLookup} {index : Nat} (h : inVpn lookup index = true) :
    lookup.route.isSome = true := by
  unfold inVpn firstHop at h
  cases hroute : lookup.route with
  | none => simp [hroute] at h
  | some route => rfl

theorem routeFound_iff :
    RouteFound kernel input ↔ (lookupFor kernel input probeV4).route.isSome = true ∨
      (lookupFor kernel input probeV6).route.isSome = true := by
  unfold RouteFound lookupFor
  cases input.skipRouteLookup with
  | true => simp
  | false => simp

/-- The verdicts of one assessment, with a VPN up. -/
theorem assessVpn_verdicts {vpn : Interface} (hvpn : interfaces.find? Interface.isUpVpn = some vpn)
    (rules : List RoutingRule) (tables : List Nat) (uid : Nat) (lookupV4 lookupV6 : RouteLookup)
    (androidState : Option AndroidNetworkState) :
    let assessment := assessVpn interfaces rules tables uid lookupV4 lookupV6 androidState
    let uses := inVpn lookupV4 vpn.index || inVpn lookupV6 vpn.index
    assessment.appBypassesVpn = !uses ∧
      assessment.disagreement = (assessment.frameworkSaysInVpn != uses) := by
  simp only [assessVpn, hvpn]
  exact ⟨trivial, trivial⟩

/-- The verdicts of a view rest on evidence exactly when the evidence is complete. -/
theorem evidenced_iff {state : AppNetworkState}
    (h : appNetworkState kernel interfaces ifNames input = .ok state) :
    Evidenced kernel input state ↔ EvidenceComplete kernel interfaces input := by
  obtain ⟨_, rules, tables, hvpn⟩ := appNetworkState_vpn h
  unfold Evidenced EvidenceComplete
  rw [hvpn]
  cases hup : interfaces.find? Interface.isUpVpn with
  | none => simp [assessVpn, hup]
  | some vpn =>
    obtain ⟨hbypass, hdisagree⟩ := assessVpn_verdicts hup rules tables input.app.uid
      (lookupFor kernel input probeV4) (lookupFor kernel input probeV6) input.androidState
    have hopinion : (assessVpn interfaces rules tables input.app.uid (lookupFor kernel input probeV4)
        (lookupFor kernel input probeV6) input.androidState).frameworkSaysInVpn = true →
        FrameworkVpn input := frameworkSaysInVpn_imp rules tables _ _ _
    have hroute : (inVpn (lookupFor kernel input probeV4) vpn.index ||
        inVpn (lookupFor kernel input probeV6) vpn.index) = true → RouteFound kernel input := by
      intro huses
      rw [routeFound_iff]
      exact ((Bool.or_eq_true _ _).mp huses).imp route_of_inVpn route_of_inVpn
    simp only [Option.mem_def, Option.some.injEq, forall_eq', hbypass, hdisagree]
    generalize (inVpn (lookupFor kernel input probeV4) vpn.index ||
      inVpn (lookupFor kernel input probeV6) vpn.index) = uses at hroute ⊢
    generalize VpnAssessment.frameworkSaysInVpn _ = opinion at hopinion ⊢
    cases uses with
    | true =>
      -- the lookups are evidence by themselves; a silent framework is the whole question
      cases opinion with
      | true => simp [hopinion rfl, hroute rfl]
      | false => simp [hroute rfl]
    | false =>
      -- no lookup goes through the VPN: a bypass, whether or not there was a route
      cases opinion with
      | true => simp [hopinion rfl]
      | false => simp

/-- **No verdict without evidence.**  For every input, the view claims a disagreement only
    with a framework VPN to disagree with and a bypass only with a route, if and only if
    there is no view, no VPN, or complete evidence. -/
theorem appNetworkState_evidenced_iff (kernel : KernelView) (interfaces : List Interface)
    (ifNames : Nat → Option String) (input : CorrelationInput) :
    (∀ state, appNetworkState kernel interfaces ifNames input = .ok state →
      Evidenced kernel input state) ↔
    (Answered kernel ifNames input → EvidenceComplete kernel interfaces input) := by
  constructor
  · intro hall hanswered
    obtain ⟨state, hstate⟩ := exists_appNetworkState hanswered interfaces
    exact (evidenced_iff hstate).mp (hall state hstate)
  · intro hcomplete state hstate
    exact (evidenced_iff hstate).mpr (hcomplete (appNetworkState_vpn hstate).1)

end Evidence

/-- A kernel with no rules and no sockets, which sends everything out of interface 5. -/
def tunnelled : KernelView where
  rules := .ok []
  routeLookup _ _ := { route := some { nextHops := [{ outInterfaceIndex := 5 }] } }
  routes := .ok []
  sockets := { opened := .ok (), dump := fun _ => .ok [] }
  uidFirewall _ := {}

/-- Interface 5 is a tunnel that is up. -/
def tunnel : Interface := { index := 5, name := "tun0", kind := .vpnTun, flags := some { up := true } }

/-- An app that goes through the VPN and a request without a framework state. -/
theorem no_framework_disagreement :
    ¬ ∀ kernel interfaces ifNames input state,
      appNetworkState kernel interfaces ifNames input = .ok state →
        Evidenced kernel input state := by
  intro hall
  have hanswered : Answered tunnelled (fun _ => none) { app := { uid := 10001 } } :=
    ⟨⟨_, rfl⟩, _, rfl⟩
  obtain ⟨state, hstate⟩ := exists_appNetworkState hanswered [tunnel]
  have hcomplete := (evidenced_iff hstate).mp (hall _ _ _ _ state hstate) tunnel rfl
  rcases hcomplete.2 with ⟨framework, hframework, _⟩ | houtside
  · cases hframework
  · cases houtside

end Netdiag.Correlate
