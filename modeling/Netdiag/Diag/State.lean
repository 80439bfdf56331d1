import Netdiag.Diag.Check

namespace Netdiag.Diag

/-!
# Diagnosis — the state the checks share

`DiagState` and `gather` of `daemon/src/diag/mod.rs`.  The collectors are a parameter: a
`Kernel` holds what each of them would return.

* `DiagState`, `gather` — everything the checks read, collected once.
* `egressInterface` — the interface a route lookup leaves through.
* `Gathered` — a state whose interface indexes are distinct and whose egress interfaces are
  those of its lookups; `gather_ok` builds one from every successful run of `gather`.
-/

open Netdiag.Probe

/-! ### Requests -/

/-- `DiagnoseTarget`. -/
structure DiagnoseTarget where
  hostname : String := ""
  ipv4Endpoint : Option IpAddress := none
  ipv6Endpoint : Option IpAddress := none
  tcpPort : Nat := 0
  asUid : Nat := 0
  hasAsUid : Bool := false
  netId : Int := 0
  timeoutMs : Nat := 0
  deriving DecidableEq, Repr

/-- `DiagnoseRequest`. -/
structure DiagnoseRequest where
  target : Option DiagnoseTarget := none
  androidState : Option AndroidNetworkState := none
  passiveOnly : Bool := false
  only : List Int := []
  skip : List Int := []
  deriving DecidableEq, Repr

/-! ### Constants -/

/-- `DEFAULT_HOSTNAME`. -/
def defaultHostname : String := "connectivitycheck.gstatic.com"

/-- `DEFAULT_V4_ENDPOINT`, `1.1.1.1`. -/
def defaultV4Endpoint : IpAddr := .v4 0x01010101

/-- `DEFAULT_V6_ENDPOINT`, `2606:4700:4700::1111`. -/
def defaultV6Endpoint : IpAddr := .v6 0x26064700470000000000000000001111

/-- `FALLBACK_DNS_V4`, `1.1.1.1`. -/
def fallbackDnsV4 : IpAddr := .v4 0x01010101

/-- `FALLBACK_DNS_V6`, `2606:4700:4700::1111`. -/
def fallbackDnsV6 : IpAddr := .v6 0x26064700470000000000000000001111

/-- `DEFAULT_TCP_PORT`. -/
def defaultTcpPort : Nat := 443

/-! ### The state -/

/-- `DiagState`. -/
structure DiagState where
  interfaces : List Interface
  rules : List RoutingRule
  routes : List Route
  neighbors : List Neighbor
  sockets : List Socket
  socketSummary : SocketSummary
  clat : Clat464State
  network : Option AndroidNetwork
  netId : Int
  probeCtxV4 : ProbeContext
  probeCtxV6 : ProbeContext
  lookupV4 : RouteLookup
  lookupV6 : RouteLookup
  egressV4 : Option Interface
  egressV6 : Option Interface
  dnsServers : List IpAddr
  dnsFromFramework : Bool
  hostname : String
  v4Endpoint : SocketAddr
  v6Endpoint : SocketAddr
  timeoutMs : Nat
  deriving DecidableEq, Repr

/-- `route.next_hops.first()` of a lookup. -/
def firstHop (lookup : RouteLookup) : Option NextHop :=
  lookup.route.bind (fun r => r.nextHops.head?)

/-- `egress_interface`. -/
def egressInterface (lookup : RouteLookup) (interfaces : List Interface) : Option Interface :=
  (firstHop lookup).bind (fun hop =>
    interfaces.find? (fun i => i.index == hop.outInterfaceIndex))

/-- `resolve_net_id`. -/
def resolveNetId (target : DiagnoseTarget) (androidState : Option AndroidNetworkState) : Int :=
  if target.netId ≠ 0 then target.netId
  else ((androidState.filter (·.hasActiveNetwork)).map (·.activeNetId)).getD 0

/-- `resolve_dns_servers`. -/
def resolveDnsServers (network : Option AndroidNetwork) : List IpAddr × Bool :=
  let fallback := ([fallbackDnsV4, fallbackDnsV6], false)
  match network.bind (·.linkProperties) with
  | some lp =>
    let servers := lp.dnsServers.filterMap IpAddress.toIp
    if servers.isEmpty then fallback else (servers, true)
  | none => fallback

/-- `procnet::detect_clat`. -/
def detectClat (interfaces : List Interface) : Clat464State :=
  match interfaces.find? (fun i => i.kind == .clat || i.name.startsWith "v4-") with
  | none => { active := false }
  | some clat =>
    { active := (clat.flags.map (fun f => f.up && f.running)).getD false
      clatInterface := clat.name }

/-- `empty_state` of the source's tests: nothing gathered. -/
def emptyState : DiagState where
  interfaces := []
  rules := []
  routes := []
  neighbors := []
  sockets := []
  socketSummary := {}
  clat := {}
  network := none
  netId := 0
  probeCtxV4 := ProbeContext.withTimeout 100
  probeCtxV6 := ProbeContext.withTimeout 100
  lookupV4 := {}
  lookupV6 := {}
  egressV4 := none
  egressV6 := none
  dnsServers := []
  dnsFromFramework := false
  hostname := defaultHostname
  v4Endpoint := ⟨defaultV4Endpoint, 443⟩
  v6Endpoint := ⟨defaultV6Endpoint, 443⟩
  timeoutMs := 100

/-- What the collectors return.  A failed socket dump is an empty one; any other failure
    ends the diagnosis. -/
structure Kernel where
  interfaces : Except String (List Interface)
  routes : Except String (List Route)
  rules : Except String (List RoutingRule)
  neighbors : Except String (List Neighbor)
  sockets : Except String (List Socket × SocketSummary)
  /-- `route_lookup` for a destination, a uid and a mark. -/
  routeLookup : IpAddr → Option Nat → Option Nat → RouteLookup

/-- `gather`. -/
def gather (kernel : Kernel) (request : DiagnoseRequest) : Except String DiagState := do
  let target := request.target.getD {}
  let interfaces ← kernel.interfaces
  let routes ← kernel.routes
  let rules ← kernel.rules
  let neighbors ← kernel.neighbors
  let (sockets, socketSummary) :=
    match kernel.sockets with
    | .ok dump => dump
    | .error _ => ([], {})
  let netId := resolveNetId target request.androidState
  let network := request.androidState.bind (fun s =>
    (s.networks.find? (fun n => n.netId == netId)).or (s.networks.find? (·.isDefault)))
  let baseCtx := (ProbeContext.withTimeout target.timeoutMs).pinnedToNetId netId
  let uid := if target.hasAsUid then some target.asUid else none
  let lookupV4 := kernel.routeLookup defaultV4Endpoint uid baseCtx.mark
  let lookupV6 := kernel.routeLookup defaultV6Endpoint uid baseCtx.mark
  let egressV4 := egressInterface lookupV4 interfaces
  let egressV6 := egressInterface lookupV6 interfaces
  let onEgress (egress : Option Interface) : ProbeContext :=
    match egress with
    | some iface => baseCtx.onDevice iface.name
    | none => baseCtx
  let (dnsServers, dnsFromFramework) := resolveDnsServers network
  -- `target.tcp_port as u16` keeps the low sixteen bits.
  let port := if target.tcpPort = 0 then defaultTcpPort else target.tcpPort % 2 ^ 16
  return {
    clat := detectClat interfaces
    interfaces, rules, routes, neighbors, sockets, socketSummary, network, netId
    probeCtxV4 := onEgress egressV4
    probeCtxV6 := onEgress egressV6
    lookupV4, lookupV6, egressV4, egressV6, dnsServers, dnsFromFramework
    hostname := if target.hostname.isEmpty then defaultHostname else target.hostname
    v4Endpoint := ⟨(target.ipv4Endpoint.bind IpAddress.toIp).getD defaultV4Endpoint, port⟩
    v6Endpoint := ⟨(target.ipv6Endpoint.bind IpAddress.toIp).getD defaultV6Endpoint, port⟩
    timeoutMs := target.timeoutMs }

/-! ### Gathered states -/

/-- A state as `gather` builds it, over interfaces with distinct indexes. -/
structure Gathered extends DiagState where
  indexes_nodup : (interfaces.map Interface.index).Nodup
  egressV4_eq : egressV4 = egressInterface lookupV4 interfaces
  egressV6_eq : egressV6 = egressInterface lookupV6 interfaces

/-- **`gather` builds gathered states**, as long as the kernel numbers its interfaces
    distinctly. -/
theorem gather_ok {kernel : Kernel} {request : DiagnoseRequest} {state : DiagState}
    (h : gather kernel request = .ok state) (nodup : (state.interfaces.map Interface.index).Nodup) :
    ∃ g : Gathered, g.toDiagState = state := by
  unfold gather at h
  cases hi : kernel.interfaces with
  | error e => simp [hi, bind, Except.bind] at h
  | ok interfaces =>
  cases hr : kernel.routes with
  | error e => simp [hi, hr, bind, Except.bind] at h
  | ok routes =>
  cases hu : kernel.rules with
  | error e => simp [hi, hr, hu, bind, Except.bind] at h
  | ok rules =>
  cases hn : kernel.neighbors with
  | error e => simp [hi, hr, hu, hn, bind, Except.bind] at h
  | ok neighbors =>
    simp only [hi, hr, hu, hn, bind, Except.bind, pure, Except.pure, Except.ok.injEq] at h
    subst h
    exact ⟨⟨_, nodup, rfl, rfl⟩, rfl⟩

end Netdiag.Diag
