import Netdiag.Diag.Structural
import Netdiag.Probe.Mtu
import Netdiag.Probe.Dns

namespace Netdiag.Diag

/-!
# Diagnosis — probe-backed checks

The checks of `daemon/src/diag/mod.rs` that send packets.  What comes back is a parameter:
`Probes` answers every probe the engine can send.  A probe is named by the check that sends
it, its position among the probes of that check and its arguments, so two probes of one run
never have to agree.
-/

open Netdiag.Probe
open Netdiag.Probe.Dns

/-- Outcomes of the probes of one run. -/
structure Probes where
  /-- `icmp::ping` of a target, with a count and a payload size. -/
  ping : CheckId → IpAddr → Nat → Nat → ProbeContext → ProbeResult
  /-- `mtu::kernel_path_mtu`. -/
  kernelPathMtu : IpAddr → ProbeContext → Option Nat
  /-- `dns::query` of a server for a name and a type. -/
  query : CheckId → Nat → SocketAddr → String → Nat → ProbeContext → Except String DnsAnswer
  /-- `tcp::connect`. -/
  connect : CheckId → Nat → SocketAddr → ProbeContext → ProbeResult
  /-- `tls::probe`. -/
  tls : SocketAddr → String → ProbeContext → ProbeResult
  /-- `firewall::collect`. -/
  firewall : FirewallState
  /-- `firewall::read_uid_firewall`. -/
  readUidFirewall : Nat → UidFirewallState

/-- A network on which no probe is answered. -/
def Probes.unanswered : Probes where
  ping _ _ _ _ _ := .failure "no reply"
  kernelPathMtu _ _ := none
  query _ _ _ _ _ _ := .error "timed out"
  connect _ _ _ _ := .failure "timed out"
  tls _ _ _ := .failure "timed out"
  firewall := {}
  readUidFirewall _ := {}

/-- The probe context of a server's family. -/
def contextFor (state : DiagState) (server : IpAddr) : ProbeContext :=
  if server.isIpv6 then state.probeCtxV6 else state.probeCtxV4

/-! ### Gateway -/

/-- The check `check_gateway` files its report under. -/
def gatewayId : IpFamily → CheckId
  | .v6 => .gatewayReachabilityV6
  | _ => .gatewayReachabilityV4

/-- `util::format_mac`. -/
def formatMac (bytes : List (BitVec 8)) : String :=
  ":".intercalate (bytes.map (fun b => String.ofList
    [Nat.digitChar (b.toNat / 16), Nat.digitChar (b.toNat % 16)]))

/-- `check_gateway`. -/
def checkGateway (probes : Probes) (state : DiagState) (family : IpFamily) :
    Report (gatewayId family) :=
  let (lookup, ctx) :=
    match family with
    | .v6 => (state.lookupV6, state.probeCtxV6)
    | _ => (state.lookupV4, state.probeCtxV4)
  let label := familyLabel family
  let builder := CheckBuilder.new (gatewayId family) s!"{label} gateway reachable"
    |>.family family
    |>.dependsOn [if family = .v6 then "route.v6.default" else "route.v4.default"]
  match lookup.route with
  | none => builder.skip s!"no {label} route, so there is no gateway to test"
  | some route =>
    let hop := route.nextHops.head?.getD {}
    match hop.gateway.bind IpAddress.toIp with
    | none => builder.skip s!"the {label} route is on-link (no gateway to probe)"
    | some gateway =>
      let entry := findGateway state.neighbors gateway hop.outInterfaceIndex
      let neighborState := (entry.map (·.state)).getD .none
      let ping := probes.ping (gatewayId family) gateway 2 56 ctx
      let builder := builder
        |>.ev "gateway" gateway.display
        |>.ev "interface" hop.outInterfaceName
        |>.ev "neighbor_state" neighborState.debug
        |>.ev "link_address" ((entry.map (fun n => formatMac n.linkAddress)).getD "")
        |>.ev "icmp" ping.detail
        |>.ev "routing" ctx.describe
      if ping.ok then builder.pass s!"gateway {gateway.display} answers ICMP echo"
      -- Many gateways drop ICMP; a usable neighbour entry shows that the next hop is there.
      else if neighborState.isUsable then
        builder.warn (s!"gateway {gateway.display} does not answer ICMP but is present in the " ++
          s!"neighbour table as {neighborState.debug}; many gateways filter ICMP, so this is " ++
          "not conclusive")
      else
        builder.fail (s!"gateway {gateway.display} is unreachable: neighbour state is " ++
          s!"{neighborState.debug} and it does not answer ICMP")

/-! ### DNS -/

/-- The check `check_dns` files its report under. -/
def dnsId (qtype : Nat) : CheckId := if qtype = typeA then .dnsA else .dnsAaaa

/-- The loop of `check_dns`: servers in turn until one answers. -/
def tryServers {id : CheckId} (probe : Nat → IpAddr → ProbeResult) :
    CheckBuilder id → List IpAddr → Nat → Option ProbeResult → Report id
  | builder, [], _, last =>
    match last with
    | some result => builder.withProbe result
    | none => builder.skip "no DNS server was tried"
  | builder, server :: rest, index, _ =>
    let result := probe index server
    let builder := builder.ev s!"server_{index}" s!"{server.display}: {result.detail}"
    -- The first server that answers decides; the servers after it are not asked.
    if result.ok then builder.withProbe result
    else tryServers probe builder rest (index + 1) (some result)

/-- `check_dns`. -/
def checkDns (probes : Probes) (state : DiagState) (qtype : Nat) : Report (dnsId qtype) :=
  let label := if qtype = typeA then "A" else "AAAA"
  let builder := CheckBuilder.new (dnsId qtype) s!"DNS {label} lookup"
    |>.ev "hostname" state.hostname
    |>.ev "from_framework" (toString state.dnsFromFramework)
    |>.ev "servers" (", ".intercalate (state.dnsServers.map IpAddr.display))
  -- Nothing to ask.
  if state.dnsServers.isEmpty then
    builder.skip "no DNS servers are configured for this network"
  else
    let probe (index : Nat) (server : IpAddr) : ProbeResult :=
      let ctx := contextFor state server
      let addr : SocketAddr := ⟨server, 53⟩
      Dns.probe (probes.query (dnsId qtype) index addr state.hostname qtype ctx) addr
        state.hostname qtype ctx
    tryServers probe builder state.dnsServers 0 none

/-! ### Transport -/

/-- The check `check_tcp` files its report under. -/
def tcpId : IpFamily → CheckId
  | .v6 => .tcpV6
  | _ => .tcpV4

/-- `check_tcp`. -/
def checkTcp (probes : Probes) (state : DiagState) (family : IpFamily) : Report (tcpId family) :=
  let (endpoint, ctx, addressCheck, hasRoute) :=
    match family with
    | .v6 => (state.v6Endpoint, state.probeCtxV6, "addr.v6", state.lookupV6.route.isSome)
    | _ => (state.v4Endpoint, state.probeCtxV4, "addr.v4", state.lookupV4.route.isSome)
  let builder := CheckBuilder.new (tcpId family) s!"TCP connection over {familyLabel family}"
    |>.family family
    |>.dependsOn [addressCheck]
  if !hasRoute then
    builder.skip (s!"no {familyLabel family} route to the internet, so a TCP test would only " ++
      "repeat that")
  else builder.withProbe (probes.connect (tcpId family) 0 endpoint ctx)

/-- `check_tls`, over the checks that were made before it. -/
def checkTls (probes : Probes) (state : DiagState) (existing : List Check) :
    Report .tlsHandshake :=
  let builder := (CheckBuilder.new .tlsHandshake "TLS handshake").dependsOn ["tcp.v4", "tcp.v6"]
  let passed (key : String) : Bool := existing.any (fun c => c.key == key && c.status == .pass)
  let handshake (endpoint : SocketAddr) (ctx : ProbeContext) (family : IpFamily) :
      Report .tlsHandshake :=
    ((builder.family family).ev "family" (familyLabel family)).withProbe
      (probes.tls endpoint state.hostname ctx)
  -- IPv6 first: it is the family a client tries first when both work.
  if passed "tcp.v6" then handshake state.v6Endpoint state.probeCtxV6 .v6
  else if passed "tcp.v4" then handshake state.v4Endpoint state.probeCtxV4 .v4
  else builder.skip "no TCP connection succeeded, so there is nothing to handshake over"

/-! ### Private DNS and NAT64 -/

/-- `check_private_dns`. -/
def checkPrivateDns (probes : Probes) (state : DiagState) : Report .privateDns :=
  let builder := CheckBuilder.new .privateDns "Private DNS"
  match state.network with
  | none => builder.skip "Private DNS configuration comes from the framework"
  | some network =>
  match network.linkProperties with
  | none => builder.skip "no LinkProperties to read Private DNS from"
  | some lp =>
    let mode := (PrivateDnsMode.tryFrom lp.privateDnsMode).getD .unspecified
    let builder := builder
      |>.ev "mode" mode.debug
      |>.ev "hostname" lp.privateDnsServerName
      |>.ev "active" (toString lp.privateDnsActive)
      |>.ev "validated_servers"
        (", ".intercalate (lp.validatedPrivateDnsServers.map IpAddress.display))
    if mode == .off || mode == .unspecified then builder.skip "Private DNS is off"
    else
      let servers :=
        if lp.validatedPrivateDnsServers.isEmpty then state.dnsServers
        else lp.validatedPrivateDnsServers.filterMap IpAddress.toIp
      let results := servers.zipIdx.map (fun s =>
        (s.1, probes.connect .privateDns s.2 ⟨s.1, 853⟩ (contextFor state s.1)))
      let reachable := (results.filter (·.2.ok)).map (·.1.display)
      let unreachable := (results.filter (!·.2.ok)).map (fun r =>
        s!"{r.1.display} ({r.2.detail})")
      let builder := builder
        |>.ev "dot_reachable" (", ".intercalate reachable)
        |>.ev "dot_unreachable" ("; ".intercalate unreachable)
      if reachable.isEmpty && !servers.isEmpty then
        -- In strict mode Android never falls back to cleartext.
        if mode = .strict then
          builder.fail ("Private DNS is in strict mode but no server answers on port 853; Android " ++
            "will not fall back to plaintext DNS, so name resolution is completely down")
        else
          builder.warn ("no Private DNS server answers on port 853; Android will fall back to " ++
            "plaintext DNS, with a delay on every first lookup")
      else if !lp.privateDnsActive && mode != .off then
        builder.warn "Private DNS is configured but the framework does not report it as active"
      else
        builder.pass (s!"Private DNS ({mode.debug}) is working; {reachable.length} server(s) " ++
          "answer on port 853")

/-- `check_nat64`. -/
def checkNat64 (probes : Probes) (state : DiagState) : Report .nat64Dns64 :=
  let frameworkPrefix :=
    (((state.network.bind (·.linkProperties)).bind (·.nat64Prefix)).map WirePrefix.display).getD ""
  let builder := CheckBuilder.new .nat64Dns64 "NAT64 / DNS64"
    |>.ev "clat_active" (toString state.clat.active)
    |>.ev "clat_interface" state.clat.clatInterface
    |>.ev "framework_nat64_prefix" frameworkPrefix
  match state.dnsServers with
  | [] => builder.skip "no DNS servers to run the RFC 7050 discovery query against"
  | server :: _ =>
    let answer := probes.query .nat64Dns64 0 ⟨server, 53⟩ dns64ProbeName typeAaaa
      (contextFor state server)
    let builder := builder.ev "probe_server" server.display
    -- RFC 7050: `ipv4only.arpa` has no AAAA records, so one that comes back was synthesised.
    let synthesised : Option (BitVec 128 × Nat) :=
      match answer with
      | .ok a => a.addresses.findSome? (fun ip =>
        match ip with
        | .v6 bits => extractNat64Prefix bits
        | .v4 _ => none)
      | .error _ => none
    let builder :=
      match answer with
      | .ok a =>
        builder
          |>.ev "rcode" a.rcode.name
          |>.ev "ipv4only_arpa_aaaa" (", ".intercalate (a.addresses.map IpAddr.display))
      | .error e => builder.ev "probe_error" e
    match synthesised, state.clat.active with
    | some (bits, len), true =>
      builder.pass (s!"DNS64 is synthesising with prefix {IpAddr.displayV6 bits}/{len} and " ++
        s!"clatd is running on {state.clat.clatInterface}")
    | some (bits, len), false =>
      builder.warn (s!"DNS64 is synthesising with prefix {IpAddr.displayV6 bits}/{len} but no " ++
        "clat interface exists; apps using raw IPv4 sockets or IPv4 literals have no path out")
    | none, true =>
      builder.warn (s!"clatd is running on {state.clat.clatInterface} but the resolver does not " ++
        "synthesise AAAA records for ipv4only.arpa; the NAT64 prefix may have been learned " ++
          "another way, or DNS64 has stopped")
    | none, false => builder.skip "this network is not using NAT64/DNS64"

/-! ### MTU -/

/-- What `check_mtu` measures along: IPv4 when there is a route for it, else IPv6. -/
def mtuTarget (state : DiagState) : Option (IpAddr × ProbeContext × IpFamily) :=
  if state.lookupV4.route.isSome then some (state.v4Endpoint.ip, state.probeCtxV4, .v4)
  else if state.lookupV6.route.isSome then some (state.v6Endpoint.ip, state.probeCtxV6, .v6)
  else none

/-- The path MTU the kernel has cached on the route of a family; zero when there is none. -/
def routeMtu (state : DiagState) (family : IpFamily) : Nat :=
  let lookup :=
    match family with
    | .v6 => state.lookupV6
    | _ => state.lookupV4
  ((lookup.route.bind (·.metrics)).map (·.mtu)).getD 0

/-- `check_mtu`. -/
def checkMtu (probes : Probes) (state : DiagState) : Report .mtuPmtu :=
  let builder := CheckBuilder.new .mtuPmtu "MTU / path MTU"
  match state.egressV4.or state.egressV6 with
  | none => builder.skip "no egress interface to measure"
  | some iface =>
  match mtuTarget state with
  | none => builder.skip "no route to measure a path MTU along"
  | some (target, ctx, family) =>
    let routeMtu := routeMtu state family
    let builder := builder
      |>.family family
      |>.ev "interface" iface.name
      |>.ev "interface_mtu" (toString iface.mtu)
      |>.ev "route_mtu" (toString routeMtu)
    let report := builder.withProbe
      (Mtu.discover (probes.ping .mtuPmtu) probes.kernelPathMtu target iface.mtu ctx)
    -- The probe's status is rewritten whenever the kernel has cached a smaller path MTU.
    if 0 < routeMtu && routeMtu < iface.mtu then
      ⟨{ report.check with
          status := .info
          detail := s!"the kernel has cached a path MTU of {routeMtu} for this route, below the " ++
            s!"interface MTU of {iface.mtu}; PMTU discovery is working" },
        report.id_eq, report.key_eq⟩
    else report

end Netdiag.Diag
