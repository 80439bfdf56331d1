import Netdiag.Diag.State
import Mathlib.Data.List.Sort

namespace Netdiag.Diag

/-!
# Diagnosis — rules

`daemon/src/diag/rules.rs`: the interpretation of check results.

* `CheckIndex` — the checks by key; of several checks with one key the last one counts.
* `Rule`, `rules` — the nineteen rules, in order.  A rule looks at statuses and evidence and
  either stays silent or produces its one finding.
* `evaluate` — all rules, most severe finding first.
* `evaluate_reports_iff` — whether a finding id is reported is a question to that finding's rule
  alone.
-/

/-! ### Findings -/

/-- `FindingSeverity`. -/
inductive FindingSeverity
  | unspecified
  | info
  | low
  | medium
  | high
  | critical
  deriving DecidableEq, Repr

/-- The number of a severity on the wire. -/
def FindingSeverity.toNat (s : FindingSeverity) : Nat := s.ctorIdx

/-- `FindingId`. -/
inductive FindingId
  | unspecified
  | brokenUpstreamIpv6
  | ipv6ConfiguredNoRoute
  | noConnectivityAtAll
  | dnsBrokenTransportOk
  | privateDnsBlocking
  | captivePortal
  | vpnLeak
  | vpnBlackhole
  | frameworkKernelDisagreement
  | validatedButBroken
  | mtuBlackhole
  | gatewayUnreachable
  | nat64WithoutClat
  | clatWithoutNat64
  | firewallBlockingUid
  | socketsStuckSynSent
  | socketsStuckCloseWait
  | meteredRestriction
  | noUidRuleMatch
  | multipleDefaultRoutes
  | ipv6DisabledBySysctl
  | happyEyeballsDelay
  deriving DecidableEq, Repr

/-- `Finding`. -/
structure Finding where
  id : FindingId
  key : String
  severity : FindingSeverity
  title : String
  interpretation : String
  supportingChecks : List String
  suggestedActions : List String
  confidence : Nat
  deriving DecidableEq, Repr

/-! ### The index -/

/-- `CheckIndex`. -/
structure CheckIndex where
  checks : List Check

namespace CheckIndex

/-- `by_key.get`: collecting into a map keeps the last check of a key. -/
def get (index : CheckIndex) (key : String) : Option Check :=
  index.checks.reverse.find? (fun c => c.key == key)

/-- `CheckIndex::status`. -/
def status (index : CheckIndex) (key : String) : Option CheckStatus :=
  (index.get key).bind (fun c => CheckStatus.tryFrom c.status.toInt)

/-- `CheckIndex::passed`. -/
def passed (index : CheckIndex) (key : String) : Bool := index.status key == some .pass

/-- `CheckIndex::failed`. -/
def failed (index : CheckIndex) (key : String) : Bool := index.status key == some .fail

/-- `CheckIndex::warned`. -/
def warned (index : CheckIndex) (key : String) : Bool := index.status key == some .warn

/-- `CheckIndex::skipped`. -/
def skipped (index : CheckIndex) (key : String) : Bool := index.status key == some .skip

/-- `CheckIndex::detail`. -/
def detail (index : CheckIndex) (key : String) : String :=
  ((index.get key).map Check.detail).getD ""

/-- `CheckIndex::evidence`. -/
def evidence (index : CheckIndex) (key field : String) : Option String :=
  (index.get key).bind (fun c => c.evidenceOf field)

end CheckIndex

/-- `Rule`. -/
abbrev Rule := CheckIndex → DiagState → Option Finding

/-! ### The rules -/

/-- `rule_no_connectivity_at_all`. -/
def ruleNoConnectivityAtAll : Rule := fun index _ =>
  let v4Dead := index.failed "tcp.v4" || index.skipped "tcp.v4"
  let v6Dead := index.failed "tcp.v6" || index.skipped "tcp.v6"
  let dnsDead := index.failed "dns.a" && index.failed "dns.aaaa"
  if !(v4Dead && v6Dead && dnsDead) then none
  -- Where both families merely lack a route, a more specific rule explains it better.
  else if index.skipped "tcp.v4" && index.skipped "tcp.v6" && index.failed "iface.active" then
    none
  else some {
    id := .noConnectivityAtAll
    key := "no_connectivity"
    severity := .critical
    title := "Suspected problem: no working path to the internet"
    interpretation :=
      "Neither IPv4 nor IPv6 completed a TCP connection, and DNS failed over both " ++
        "families. Nothing above the link layer is getting through.\n\n" ++
      "When both families fail together the cause is usually below them: no usable " ++
        "address, no default route, an unreachable first hop, or a firewall dropping this " ++
        "device's traffic entirely. The checks above show which of those is the case."
    supportingChecks := ["tcp.v4", "tcp.v6", "dns.a", "dns.aaaa"]
    suggestedActions :=
      ["Check whether the gateway is reachable at all",
        "Confirm the interface has a global address and a default route",
        "If this is a captive portal network, open a browser and complete the portal"]
    confidence := 90 }

/-- `rule_broken_upstream_ipv6`. -/
def ruleBrokenUpstreamIpv6 : Rule := fun index _ =>
  let configured := index.passed "addr.v6" && index.passed "route.v6.default"
  let v6TransportBroken := index.failed "tcp.v6"
  -- A network that is down in both families is another finding.
  let v4Works := index.passed "tcp.v4"
  if !(configured && v6TransportBroken && v4Works) then none
  else
    let aaaaReturned := index.passed "dns.aaaa"
    let confidence :=
      75 + (if aaaaReturned then 15 else 0) +
        (if index.passed "gateway.v6" || index.warned "gateway.v6" then 5 else 0)
    let extra :=
      if aaaaReturned then
        "\n\nDNS is returning AAAA records, so applications will prefer IPv6 and try it " ++
          "first. Happy Eyeballs (RFC 8305) normally hides a broken family behind a short " ++
          "delay, but that only works when the IPv6 attempt fails quickly. A path that " ++
          "silently drops packets makes every connection wait for a timeout instead, which " ++
          "is what \"the internet is slow\" usually means on a network in this state."
      else
        "\n\nDNS is not returning AAAA records for the test host, which limits the damage: " ++
          "most applications will not attempt IPv6 at all."
    some {
      id := .brokenUpstreamIpv6
      key := "broken_upstream_ipv6"
      severity := .high
      title := "Suspected problem: broken upstream IPv6"
      interpretation :=
        "IPv6 is fully configured on this device: a global address is assigned and a " ++
          "default route exists. IPv4 works end to end. But no TCP connection completes " ++
          "over IPv6.\n\n" ++
        "That combination points upstream, not at the device. The local configuration " ++
          "is what it should be, so the packets are being dropped somewhere beyond the " ++
          "first hop." ++ extra
      supportingChecks := ["addr.v6", "route.v6.default", "dns.aaaa", "tcp.v6", "tcp.v4"]
      suggestedActions :=
        ["Test the same device on a different network to confirm the problem follows the " ++
            "network",
          "If this is a home network, check whether the router's IPv6 delegation is still " ++
            "valid",
          "As a workaround, disabling IPv6 on this network removes the stall at the cost of " ++
            "IPv6 connectivity"]
      confidence := min confidence 100 }

/-- `rule_ipv6_configured_no_route`. -/
def ruleIpv6ConfiguredNoRoute : Rule := fun index _ =>
  if !(index.passed "addr.v6" && index.failed "route.v6.default") then none
  else some {
    id := .ipv6ConfiguredNoRoute
    key := "ipv6_no_default_route"
    severity := .medium
    title := "IPv6 address assigned but no default route"
    interpretation :=
      "The interface has a global IPv6 address but there is no IPv6 default route in " ++
        "the table this traffic uses.\n\n" ++
      "An address without a route usually means the router advertisement carried a " ++
        "prefix but no router lifetime, or the route expired and was not refreshed. " ++
        "Only on-link IPv6 destinations are reachable in this state.\n\n" ++
      index.detail "route.v6.default"
    supportingChecks := ["addr.v6", "route.v6.default"]
    suggestedActions :=
      ["Check whether router advertisements are still arriving on this link",
        "Confirm accept_ra is not disabled for this interface"]
    confidence := 85 }

/-- `rule_ipv6_disabled_by_sysctl`. -/
def ruleIpv6DisabledBySysctl : Rule := fun index _ =>
  if index.evidence "addr.v6" "disable_ipv6" != some "true" then none
  else some {
    id := .ipv6DisabledBySysctl
    key := "ipv6_disabled_sysctl"
    severity := .medium
    title := "IPv6 is administratively disabled on this interface"
    interpretation :=
      "The `disable_ipv6` sysctl is set for the egress interface, so the kernel will not " ++
        "configure or use IPv6 on it regardless of what the network offers.\n\n" ++
      "This is a local setting, not a network problem. Something on the device set it: a " ++
        "VPN app, a tethering configuration, or a manual change."
    supportingChecks := ["addr.v6"]
    suggestedActions := ["Identify what set disable_ipv6; VPN apps are the most common cause"]
    confidence := 95 }

/-- `rule_gateway_unreachable`. -/
def ruleGatewayUnreachable : Rule := fun index _ =>
  let v4 := index.failed "gateway.v4"
  let v6 := index.failed "gateway.v6"
  if !(v4 || v6) then none
  else
    let which := if v4 && v6 then "both IPv4 and IPv6" else if v4 then "IPv4" else "IPv6"
    some {
      id := .gatewayUnreachable
      key := "gateway_unreachable"
      severity := if v4 && v6 then .critical else .high
      title := "Suspected problem: the first hop is not reachable"
      interpretation :=
        "The " ++ which ++ " gateway does not answer, and the kernel has no usable neighbour " ++
          "entry for it.\n\n" ++
        "This is a link-layer problem rather than a routing one: the device has a route " ++
          "pointing at a gateway that is not responding to ARP or neighbour discovery. " ++
          "The association may look fine while the access point has actually stopped " ++
          "forwarding, which is common right after a roam or when a router is rebooting.\n\n" ++
        index.detail (if v4 then "gateway.v4" else "gateway.v6")
      supportingChecks := ["gateway.v4", "gateway.v6"]
      suggestedActions :=
        ["Re-associate with the network (toggle Wi-Fi) and see whether the neighbour entry " ++
            "recovers",
          "Check whether the router is up and forwarding for other devices"]
      confidence := 85 }

/-- `rule_dns_broken_transport_ok`. -/
def ruleDnsBrokenTransportOk : Rule := fun index _ =>
  let dnsBroken := index.failed "dns.a" && index.failed "dns.aaaa"
  -- One family is enough to show that packets get through.
  let transportOk := index.passed "tcp.v4" || index.passed "tcp.v6"
  if !(dnsBroken && transportOk) then none
  else
    let fromFramework := index.evidence "dns.a" "from_framework" == some "true"
    let servers := (index.evidence "dns.a" "servers").getD ""
    some {
      id := .dnsBrokenTransportOk
      key := "dns_broken_transport_ok"
      severity := .high
      title := "Suspected problem: DNS is broken while the network itself works"
      interpretation :=
        "TCP connections to literal addresses succeed, so packets reach the internet. " ++
          "Name resolution fails against every configured server (" ++ servers ++ ").\n\n" ++
        "Because the transport works, this is the resolver or the path to it, not " ++
          "connectivity. Common causes are a resolver that is reachable but not " ++
          "answering, a network that blocks port 53 to anything but its own resolver, or " ++
          "a Private DNS hostname that no longer resolves." ++
        (if fromFramework then ""
        else
          "\n\nNote: the framework supplied no DNS servers, so this test used public " ++
            "resolvers. The network's own resolver was not exercised.")
      supportingChecks := ["dns.a", "dns.aaaa", "tcp.v4", "tcp.v6"]
      suggestedActions :=
        ["Check the Private DNS setting; strict mode with an unreachable server disables DNS " ++
            "entirely",
          "Try a different resolver to see whether the configured one is the problem"]
      confidence := 85 }

/-- `rule_private_dns_blocking`. -/
def rulePrivateDnsBlocking : Rule := fun index _ =>
  if !index.failed "dns.private" then none
  else some {
    id := .privateDnsBlocking
    key := "private_dns_blocking"
    severity := .high
    title := "Suspected problem: strict Private DNS has no reachable server"
    interpretation :=
      index.detail "dns.private" ++
      "\n\nIn strict mode Android refuses to fall back to plaintext DNS. If the " ++
        "configured DoT server cannot be reached on port 853, name resolution stops " ++
        "completely, while everything that uses literal addresses keeps working. That " ++
        "asymmetry is why this failure is so often misread as \"some apps work\"."
    supportingChecks := ["dns.private", "dns.a"]
    suggestedActions :=
      ["Switch Private DNS to Automatic to confirm the diagnosis",
        "Check whether this network blocks outbound port 853"]
    confidence := 90 }

/-- `rule_captive_portal`. -/
def ruleCaptivePortal : Rule := fun index _ =>
  if !index.failed "captive.portal" then none
  else some {
    id := .captivePortal
    key := "captive_portal"
    severity := .medium
    title := "A captive portal is intercepting this network"
    interpretation :=
      "Android has classified this network as being behind a captive portal. Until the " ++
        "portal is satisfied, DNS answers and HTTP responses may be forged, so other " ++
        "checks in this report can show misleading results."
    supportingChecks := ["captive.portal", "android.state"]
    suggestedActions :=
      ["Open the portal page and complete sign-in, then run the diagnosis again"]
    confidence := 95 }

/-- `rule_validated_but_broken`. -/
def ruleValidatedButBroken : Rule := fun index state =>
  let validated := ((state.network.bind (·.capabilities)).map (·.validated)).getD false
  if !validated then none
  else
    let transportBroken := index.failed "tcp.v4" && index.failed "tcp.v6"
    let dnsBroken := index.failed "dns.a" && index.failed "dns.aaaa"
    -- Both families have to fail; one of them may well be missing.
    if !(transportBroken || dnsBroken) then none
    else some {
      id := .validatedButBroken
      key := "validated_but_broken"
      severity := .high
      title := "Android reports VALIDATED but connectivity is broken"
      interpretation :=
        "NetworkCapabilities still carries NET_CAPABILITY_VALIDATED for this network, " ++
          "but live probes fail" ++
        (if transportBroken && dnsBroken then " for both transport and DNS"
        else if transportBroken then " for TCP on both families"
        else " for DNS on both families") ++ ".\n\n" ++
        "Validation is a point-in-time result that Android caches and only re-runs " ++
          "periodically or on specific triggers. A network that worked when it was " ++
          "validated and broke afterwards keeps the flag, so apps keep using it and the " ++
          "system does not switch to another network. This gap between the framework's " ++
          "belief and the kernel's reality is exactly the situation where the framework " ++
          "alone cannot tell you anything useful."
      supportingChecks := ["android.state", "tcp.v4", "tcp.v6", "dns.a", "dns.aaaa"]
      suggestedActions :=
        ["Toggle the network off and on to force Android to re-validate it",
          "Compare with another device on the same network to separate device from network"]
      confidence := 88 }

/-- `rule_framework_kernel_disagreement`. -/
def ruleFrameworkKernelDisagreement : Rule := fun index _ =>
  if !index.failed "framework.kernel" then none
  else some {
    id := .frameworkKernelDisagreement
    key := "framework_kernel_disagreement"
    severity := .medium
    title := "The Android framework and the Linux kernel disagree"
    interpretation :=
      index.detail "framework.kernel" ++
      "\n\nLinkProperties is what apps see; the kernel's tables are what packets " ++
        "obey. When they diverge, an app can be told it has a route that does not " ++
        "exist, or be handed an address the interface no longer holds. This usually " ++
        "means a network transition was interrupted partway through, and it often " ++
        "resolves itself when the network is next reconfigured."
    supportingChecks := ["framework.kernel"]
    suggestedActions :=
      ["Toggle the network to force the framework and netd to re-apply configuration"]
    confidence := 80 }

/-- `rule_vpn_leak`. -/
def ruleVpnLeak : Rule := fun index state =>
  if index.evidence "vpn.routing" "egress_is_vpn" != some "false" then none
  else
    let vpnInterfaces := (index.evidence "vpn.routing" "vpn_interfaces").getD ""
    -- Without a tunnel there is nothing to leak past.
    if vpnInterfaces.isEmpty then none
    else
      let frameworkVpn := (state.network.map AndroidNetwork.isVpn).getD false
      some {
        id := .vpnLeak
        key := "vpn_leak"
        severity := .high
        title := "Traffic is bypassing the active VPN"
        interpretation :=
          "A VPN interface (" ++ vpnInterfaces ++ ") is up, but the kernel's own route lookup " ++
            "sends this traffic out of a different interface.\n\n" ++
          "On Android that normally means a uid range rule excludes this traffic from the " ++
            "VPN: either the VPN app's allowed/disallowed application list, or a bypass the " ++
            "app requested explicitly. The framework " ++
          (if frameworkVpn then "does" else "does not") ++
          " report a VPN transport for the network under test, which is a useful " ++
            "cross-check on which of those it is."
        supportingChecks := ["vpn.routing", "route.lookup.v4", "route.lookup.v6"]
        suggestedActions :=
          ["Check the VPN app's per-app settings for this uid",
            "Look at the uid range rules in the Routing view to see which rule matched"]
        confidence := 80 }

/-- `rule_vpn_ipv6_blackhole`. -/
def ruleVpnIpv6Blackhole : Rule := fun index _ =>
  if index.evidence "vpn.routing" "vpn_has_ipv6_routes" != some "false" then none
  else if index.evidence "vpn.routing" "egress_is_vpn" != some "true" then none
  else
    -- A deliberate blackhole is no fault, but silence would leave every IPv6 failure of the
    -- report unexplained.
    let blackholed :=
      index.evidence "vpn.routing" "ipv6_blackholed_in_vpn_table" == some "true"
    let table := (index.evidence "vpn.routing" "vpn_table").getD "?"
    some {
      id := .vpnBlackhole
      key := "vpn_ipv6_blackhole"
      severity := if blackholed then .info else .medium
      title :=
        if blackholed then "The VPN blocks IPv6 on purpose"
        else "The VPN carries IPv4 but not IPv6, and IPv6 is not blocked"
      interpretation :=
        if blackholed then
          "Traffic goes through the VPN, the tunnel carries no IPv6, and the VPN's " ++
            "routing table (" ++ table ++ ") sends the IPv6 default route to loopback or to an " ++
            "unreachable route.\n\n" ++
          "That is Android deliberately blackholing IPv6 for a VPN that only supports " ++
            "IPv4. It is the correct behaviour: IPv6 connections fail immediately, " ++
            "applications fall back to IPv4 without a stall, and no IPv6 traffic escapes " ++
            "the tunnel. Every IPv6 failure elsewhere in this report follows from this " ++
            "and is expected."
        else
          "Traffic goes through the VPN, but the tunnel has no IPv6 default route and " ++
            "the VPN's routing table (" ++ table ++ ") does not blackhole IPv6 either.\n\n" ++
          "That combination is the leaky one. IPv6 traffic is not carried by the " ++
            "tunnel and is not stopped, so it can leave over the underlying network " ++
            "outside the VPN. This is a privacy problem rather than a connectivity one: " ++
            "things keep working, which is exactly why it goes unnoticed."
      supportingChecks := ["vpn.routing", "tcp.v6", "route.v6.default"]
      suggestedActions :=
        if blackholed then ["Nothing to fix; use a VPN with IPv6 support if you need IPv6"]
        else
          ["Check whether the VPN app has an IPv6 or \"block IPv6\" setting",
            "Enable Always-on VPN with \"Block connections without VPN\" to stop the leak"]
      confidence := if blackholed then 90 else 75 }

/-- `rule_mtu_blackhole`. -/
def ruleMtuBlackhole : Rule := fun index _ =>
  -- The handshake is the first packet large enough to hit a lower MTU.
  let tcpOk := index.passed "tcp.v4" || index.passed "tcp.v6"
  let tlsBroken := index.failed "tls.handshake"
  if !(tcpOk && tlsBroken) then none
  -- A full-size probe that got through contradicts the rule.
  else if index.passed "mtu.pmtu" then none
  else
    let mtuDetail := index.detail "mtu.pmtu"
    let measured := index.evidence "mtu.pmtu" "measured_path_mtu"
    let interfaceMtu := (index.evidence "mtu.pmtu" "interface_mtu").getD "?"
    some {
      id := .mtuBlackhole
      key := "mtu_blackhole"
      severity := .high
      title := "Suspected problem: large packets are being dropped (MTU black hole)"
      interpretation :=
        "TCP connections establish but the TLS handshake never completes. That is the " ++
          "classic signature of a path MTU problem.\n\n" ++
        "The three-way handshake uses small packets and gets through. The ClientHello " ++
          "is the first substantial packet, and if something on the path cannot carry it " ++
          "and does not send back an ICMP \"fragmentation needed\" or \"packet too big\" " ++
          "message, the packet simply disappears. Path MTU discovery has nothing to learn " ++
          "from, so the connection hangs rather than failing.\n\n" ++
        "Interface MTU is " ++ interfaceMtu ++ ". " ++
        (if mtuDetail.isEmpty then "The MTU probe produced no measurement." else mtuDetail)
      supportingChecks := ["tcp.v4", "tcp.v6", "tls.handshake", "mtu.pmtu"]
      suggestedActions :=
        ["Lower the interface MTU (1400 is a safe test value) and retry",
          "If a VPN is active, its encapsulation overhead is the most likely cause"]
      confidence := if measured.isSome then 80 else 55 }

/-- `rule_nat64_without_clat`. -/
def ruleNat64WithoutClat : Rule := fun index state =>
  if !index.warned "nat64.dns64" then none
  -- With an IPv4 address of its own the network needs no CLAT.
  else if state.clat.active || index.passed "addr.v4" then none
  else some {
    id := .nat64WithoutClat
    key := "nat64_without_clat"
    severity := .medium
    title := "DNS64 is active but 464XLAT is not running"
    interpretation :=
      index.detail "nat64.dns64" ++
      "\n\nOn an IPv6-only network Android normally starts clatd, which presents a " ++
        "synthetic IPv4 interface so that IPv4-only applications keep working. Without " ++
        "it, anything that uses a hard-coded IPv4 literal or a raw IPv4 socket has no " ++
        "path out, while everything that resolves names keeps working through DNS64. " ++
        "Apps failing selectively, with no obvious pattern, is what that looks like " ++
        "from the outside."
    supportingChecks := ["nat64.dns64", "addr.v4"]
    suggestedActions := ["Toggle the network; clatd is started as part of network setup"]
    confidence := 75 }

/-- `rule_firewall_blocking_uid`. -/
def ruleFirewallBlockingUid : Rule := fun index _ =>
  if !index.failed "firewall.anomaly" then none
  else some {
    id := .firewallBlockingUid
    key := "firewall_blocking_uid"
    severity := .high
    title := "This app is blocked by a firewall rule"
    interpretation :=
      index.detail "firewall.anomaly" ++
      "\n\nAndroid enforces per-app network restrictions in eBPF rather than in " ++
        "netfilter, so this does not appear in any iptables dump. Data Saver, " ++
        "background restriction, battery optimisation and OEM-specific power managers " ++
        "all write into the same map. The app sees ordinary connection failures with " ++
        "no indication that policy, rather than the network, is the cause."
    supportingChecks := ["firewall.anomaly"]
    suggestedActions :=
      ["Check Data Saver and background data restrictions for this app",
        "Check battery optimisation and any OEM power-saving list"]
    confidence := 85 }

/-- `rule_sockets_stuck_syn_sent`. -/
def ruleSocketsStuckSynSent : Rule := fun index _ =>
  if (index.evidence "sockets.states" "syn_sent").isNone || !index.failed "sockets.states" then
    none
  else
    let count := (index.evidence "sockets.states" "syn_sent").getD "?"
    some {
      id := .socketsStuckSynSent
      key := "sockets_stuck_syn_sent"
      severity := .medium
      title := "Connections are piling up in SYN_SENT"
      interpretation :=
        count ++ " sockets are sitting in SYN_SENT. The kernel has sent a SYN and is " ++
          "waiting for a SYN-ACK that has not arrived.\n\n" ++
        "This is what a silent drop looks like from the socket table: the packets are " ++
          "leaving the device and nothing is answering, as opposed to a refused " ++
          "connection (which produces a RST and closes immediately) or a routing failure " ++
          "(which fails instantly with ENETUNREACH). A firewall that drops rather than " ++
          "rejects, a broken path, or a dead peer all produce this."
      supportingChecks := ["sockets.states"]
      suggestedActions :=
        ["Cross-reference with the per-app view to see which app owns these sockets"]
      confidence := 80 }

/-- `str::parse::<u32>`: decimal digits, after an optional plus sign. -/
def parseU32 (text : String) : Option Nat :=
  let digits :=
    match text.toList with
    | '+' :: rest => rest
    | chars => chars
  if digits.isEmpty || !digits.all Char.isDigit then none
  else
    let n := digits.foldl (fun acc c => 10 * acc + (c.toNat - '0'.toNat)) 0
    if n < 2 ^ 32 then some n else none

/-- `rule_sockets_stuck_close_wait`. -/
def ruleSocketsStuckCloseWait : Rule := fun index _ =>
  if !index.warned "sockets.states" then none
  else
    let count := ((index.evidence "sockets.states" "close_wait").bind parseU32).getD 0
    if count < 20 then none
    else some {
      id := .socketsStuckCloseWait
      key := "sockets_stuck_close_wait"
      severity := .low
      title := "Sockets are accumulating in CLOSE_WAIT"
      interpretation :=
        toString count ++ " sockets are in CLOSE_WAIT: the peer has closed its half of the " ++
          "connection and the local application has not closed its own.\n\n" ++
        "This is an application bug rather than a network fault, and it leaks file " ++
          "descriptors. It is worth noting here because the symptom people report is " ++
          "\"the app stops being able to connect\", which looks like a network problem " ++
          "until you count the sockets."
      supportingChecks := ["sockets.states"]
      suggestedActions := ["Identify the owning app in the per-app view; the leak is in its code"]
      confidence := 85 }

/-- `rule_multiple_default_routes`. -/
def ruleMultipleDefaultRoutes : Rule := fun index _ =>
  let v4 := index.warned "route.v4.default"
  let v6 := index.warned "route.v6.default"
  if !(v4 || v6) then none
  else
    let key := if v4 then "route.v4.default" else "route.v6.default"
    if ¬ "competing".toList <:+: (index.detail key).toList then none
    else some {
      id := .multipleDefaultRoutes
      key := "multiple_default_routes"
      severity := .low
      title := "Several default routes compete in the same table"
      interpretation :=
        index.detail key ++
        "\n\nThe kernel will pick the lowest metric, so this is not broken on its own. " ++
          "It usually means an interface went down without its routes being cleaned up, " ++
          "and it becomes a real problem if the winning route points at a gateway that no " ++
          "longer works."
      supportingChecks := [key]
      suggestedActions := ["Check whether an old interface's routes were left behind"]
      confidence := 70 }

/-- `rule_metered_restriction`. -/
def ruleMeteredRestriction : Rule := fun index state =>
  let metered := index.evidence "android.state" "metered" == some "true"
  if !metered then none
  else
    let restricted := ((state.network.bind (·.capabilities)).map (!·.notRestricted)).getD false
    if !restricted then none
    else some {
      id := .meteredRestriction
      key := "metered_restriction"
      severity := .info
      title := "This network is metered and restricted"
      interpretation :=
        "The network is marked metered and does not carry NET_CAPABILITY_NOT_RESTRICTED. " ++
          "Background traffic for most apps will be blocked by policy, which produces " ++
          "connection failures that look like network faults but are deliberate."
      supportingChecks := ["android.state"]
      suggestedActions :=
        ["Check Data Saver, and whether the app is allowed unrestricted data"]
      confidence := 90 }

/-- `RULES`, each with the id of the finding it produces. -/
def rules : List (FindingId × Rule) :=
  [(.noConnectivityAtAll, ruleNoConnectivityAtAll),
    (.brokenUpstreamIpv6, ruleBrokenUpstreamIpv6),
    (.ipv6ConfiguredNoRoute, ruleIpv6ConfiguredNoRoute),
    (.ipv6DisabledBySysctl, ruleIpv6DisabledBySysctl),
    (.gatewayUnreachable, ruleGatewayUnreachable),
    (.dnsBrokenTransportOk, ruleDnsBrokenTransportOk),
    (.privateDnsBlocking, rulePrivateDnsBlocking),
    (.captivePortal, ruleCaptivePortal),
    (.validatedButBroken, ruleValidatedButBroken),
    (.frameworkKernelDisagreement, ruleFrameworkKernelDisagreement),
    (.vpnLeak, ruleVpnLeak),
    (.vpnBlackhole, ruleVpnIpv6Blackhole),
    (.mtuBlackhole, ruleMtuBlackhole),
    (.nat64WithoutClat, ruleNat64WithoutClat),
    (.firewallBlockingUid, ruleFirewallBlockingUid),
    (.socketsStuckSynSent, ruleSocketsStuckSynSent),
    (.socketsStuckCloseWait, ruleSocketsStuckCloseWait),
    (.multipleDefaultRoutes, ruleMultipleDefaultRoutes),
    (.meteredRestriction, ruleMeteredRestriction)]

/-! ### Evaluation -/

/-- The order findings are reported in: severity, then confidence, both descending. -/
def Finding.before (a b : Finding) : Prop :=
  b.severity.toNat < a.severity.toNat ∨
    (a.severity = b.severity ∧ b.confidence ≤ a.confidence)

instance : DecidableRel Finding.before := fun _ _ => inferInstanceAs (Decidable (_ ∨ _))

/-- `evaluate`.  Sorting by insertion is stable, as `sort_by` is. -/
def evaluate (checks : List Check) (state : DiagState) : List Finding :=
  let index : CheckIndex := ⟨checks⟩
  (rules.filterMap (fun rule => rule.2 index state)).insertionSort Finding.before

/-! ### One finding, one rule -/

/-- A guarded rule fires when the guard lets it and the rest of it fires. -/
theorem isSome_guard {c : Prop} [Decidable c] (rest : Option Finding) :
    (if c then none else rest).isSome = true ↔ ¬ c ∧ rest.isSome = true := by
  by_cases h : c
  · simp [h]
  · simp [h]

/-- A rule produces the finding it is listed with, and is between 1 and 100 percent sure of
    it. -/
theorem finding_of_rule {entry : FindingId × Rule} (mem : entry ∈ rules) {index : CheckIndex}
    {state : DiagState} {f : Finding} (h : entry.2 index state = some f) :
    f.id = entry.1 ∧ 1 ≤ f.confidence ∧ f.confidence ≤ 100 := by
  simp only [rules, List.mem_cons, List.not_mem_nil, or_false] at mem
  rcases mem with rfl | rfl | rfl | rfl | rfl | rfl | rfl | rfl | rfl | rfl | rfl | rfl | rfl |
    rfl | rfl | rfl | rfl | rfl | rfl
  all_goals
    simp only [ruleNoConnectivityAtAll, ruleBrokenUpstreamIpv6, ruleIpv6ConfiguredNoRoute,
      ruleIpv6DisabledBySysctl, ruleGatewayUnreachable, ruleDnsBrokenTransportOk,
      rulePrivateDnsBlocking, ruleCaptivePortal, ruleValidatedButBroken,
      ruleFrameworkKernelDisagreement, ruleVpnLeak, ruleVpnIpv6Blackhole, ruleMtuBlackhole,
      ruleNat64WithoutClat, ruleFirewallBlockingUid, ruleSocketsStuckSynSent,
      ruleSocketsStuckCloseWait, ruleMultipleDefaultRoutes, ruleMeteredRestriction,
      Option.ite_none_left_eq_some, Option.some.injEq] at h
  -- What is left of each rule is its guards and the finding.
  all_goals
    first
    | obtain ⟨-, rfl⟩ := h
    | obtain ⟨-, -, rfl⟩ := h
  all_goals
    refine ⟨rfl, ?_⟩
    dsimp only
    first
    | decide
    | (split <;> decide)
    | omega

/-- No two rules produce the same finding. -/
theorem rules_nodup : (rules.map Prod.fst).Nodup := by decide

/-- A finding is reported exactly when some rule produces it. -/
theorem mem_evaluate_iff (checks : List Check) (state : DiagState) (f : Finding) :
    f ∈ evaluate checks state ↔ ∃ entry ∈ rules, entry.2 ⟨checks⟩ state = some f := by
  unfold evaluate
  rw [List.mem_insertionSort, List.mem_filterMap]

/-- **Whether a finding is reported is a question to its own rule.** -/
theorem evaluate_reports_iff {entry : FindingId × Rule} (mem : entry ∈ rules)
    (checks : List Check) (state : DiagState) :
    (∃ f ∈ evaluate checks state, f.id = entry.1) ↔ (entry.2 ⟨checks⟩ state).isSome = true := by
  constructor
  · rintro ⟨f, reported, id⟩
    obtain ⟨other, mem', produced⟩ := (mem_evaluate_iff _ _ _).mp reported
    -- The producing rule is listed under the same id, hence is this one.
    have ids : other.1 = entry.1 := (finding_of_rule mem' produced).1.symm.trans id
    have same : other = entry := List.inj_on_of_nodup_map rules_nodup mem' mem ids
    rw [← same, produced]
    rfl
  · intro fires
    obtain ⟨f, produced⟩ := Option.isSome_iff_exists.mp fires
    exact ⟨f, (mem_evaluate_iff _ _ _).mpr ⟨entry, mem, produced⟩,
      (finding_of_rule mem produced).1⟩

end Netdiag.Diag
