import Netdiag.Diag.State
import Mathlib.Data.List.Sort
import Mathlib.Data.List.Destutter

namespace Netdiag.Diag

/-!
# Diagnosis — structural checks

The checks of `daemon/src/diag/mod.rs` that only look at the gathered state (and, for the
firewall, at netd's uid map), except for VPN routing, which has a module of its own.  Each
is a `Report` of its check id.
-/

open Netdiag.Probe

/-! ### Texts -/

/-- `transport_name`. -/
def transportName : Transport → String
  | .cellular => "cellular"
  | .wifi => "Wi-Fi"
  | .bluetooth => "Bluetooth"
  | .ethernet => "Ethernet"
  | .vpn => "VPN"
  | .wifiAware => "Wi-Fi Aware"
  | .lowpan => "LoWPAN"
  | .usb => "USB"
  | .thread => "Thread"
  | .satellite => "satellite"
  | .unspecified => "unknown"

/-- `family_label`. -/
def familyLabel : IpFamily → String
  | .v4 => "IPv4"
  | .v6 => "IPv6"
  | .unspecified => "any"

/-- Numbers sorted, without repeats and separated by commas. -/
def displayTables (tables : List Nat) : String :=
  ", ".intercalate (((tables.insertionSort (· ≤ ·)).destutter (· ≠ ·)).map toString)

/-- Text of a gateway, or that there is none. -/
def displayGateway (hop : NextHop) : String :=
  (hop.gateway.map IpAddress.display).getD "on-link"

/-! ### Framework and interface -/

/-- `check_android_state`. -/
def checkAndroidState (state : DiagState) (request : DiagnoseRequest) :
    Report .androidNetworkState :=
  let builder := CheckBuilder.new .androidNetworkState "Android framework network state"
  match request.androidState with
  | none =>
    builder.skip ("the app did not supply ConnectivityManager state, so framework-level checks " ++
      "cannot run")
  | some android =>
  match state.network with
  | none =>
    (builder.ev "networks" (toString android.networks.length)).fail
      "ConnectivityManager reports no usable network"
  | some network =>
    -- A network without capabilities has none of them.
    let caps := network.capabilities.getD {}
    let transports := network.transports.map (fun t =>
      ((Transport.tryFrom t).map transportName).getD s!"transport {t}")
    let builder := builder
      |>.ev "net_id" (toString network.netId)
      |>.ev "net_id_under_test" (toString state.netId)
      |>.ev "probe_timeout_ms" (toString state.timeoutMs)
      |>.ev "network_handle" (toString network.networkHandle)
      |>.ev "transports" (", ".intercalate transports)
      |>.ev "validated" (toString caps.validated)
      |>.ev "internet_capability" (toString caps.internet)
      |>.ev "metered" (toString (!caps.notMetered))
      |>.ev "captive_portal" (toString caps.captivePortal)
      |>.ev "is_default" (toString network.isDefault)
      |>.ev "interface" ((network.linkProperties.map (·.interfaceName)).getD "")
    if !caps.internet then
      builder.fail s!"network {network.netId} does not claim NET_CAPABILITY_INTERNET"
    else if caps.captivePortal then
      builder.warn
        s!"network {network.netId} is behind a captive portal according to the framework"
    else if !caps.validated then
      builder.warn (s!"network {network.netId} has INTERNET but not VALIDATED: Android could " ++
        "not confirm end-to-end connectivity")
    else if caps.partialConnectivity then
      builder.warn s!"network {network.netId} reports partial connectivity"
    else
      builder.pass (s!"network {network.netId} is VALIDATED over " ++ "+".intercalate transports)

/-- `check_active_interface`. -/
def checkActiveInterface (state : DiagState) : Report .activeInterface :=
  let builder := CheckBuilder.new .activeInterface "Active egress interface"
  match state.egressV4.or state.egressV6 with
  | none =>
    builder.fail ("the kernel has no route to the internet for either family; nothing would " ++
      "leave the device")
  | some iface =>
    let flags := iface.flags.getD {}
    let builder := builder
      |>.ev "interface" iface.name
      |>.ev "index" (toString iface.index)
      |>.ev "mtu" (toString iface.mtu)
      |>.ev "kind" iface.kind.debug
      |>.ev "oper_state" iface.operState.debug
      |>.ev "egress_v4" ((state.egressV4.map (·.name)).getD "none")
      |>.ev "egress_v6" ((state.egressV6.map (·.name)).getD "none")
    if !flags.up then
      builder.fail s!"{iface.name} is the egress interface but is not UP"
    else if !flags.running then
      builder.warn s!"{iface.name} is UP but has no carrier (IFF_RUNNING is clear)"
    else
      builder.pass
        s!"traffic leaves via {iface.name} (index {iface.index}, MTU {iface.mtu})"

/-! ### Addresses and routes, one check a family -/

/-- The check `check_route_lookup` files its report under. -/
def routeLookupId : IpFamily → CheckId
  | .v6 => .routeLookupV6
  | _ => .routeLookupV4

/-- `check_route_lookup`. -/
def checkRouteLookup (state : DiagState) (family : IpFamily) : Report (routeLookupId family) :=
  let (lookup, target) :=
    match family with
    | .v6 => (state.lookupV6, defaultV6Endpoint.display)
    | _ => (state.lookupV4, defaultV4Endpoint.display)
  let builder := CheckBuilder.new (routeLookupId family)
      s!"Kernel route lookup ({familyLabel family})"
    |>.family family
    |>.ev "destination" target
    |>.ev "mark" s!"0x{hex lookup.fwmark}"
    |>.ev "uid" (toString lookup.uid)
  match lookup.error with
  | some err => builder.fail s!"the kernel could not route to {target}: {err.message}"
  | none =>
  match lookup.route with
  | none => builder.fail s!"the kernel returned no route to {target}"
  | some route =>
    let hop := route.nextHops.head?.getD {}
    let gateway := displayGateway hop
    builder
      |>.ev "table" s!"{route.table} ({route.tableName})"
      |>.ev "out_interface" hop.outInterfaceName
      |>.ev "gateway" gateway
      |>.ev "source" ((route.preferredSource.map IpAddress.display).getD "")
      |>.info (s!"packets to {target} take table {route.table} out of {hop.outInterfaceName} " ++
        s!"via {gateway}")

/-- The check `check_address` files its report under. -/
def addressId : IpFamily → CheckId
  | .v6 => .ipv6Address
  | _ => .ipv4Address

/-- `check_address`. -/
def checkAddress (state : DiagState) (family : IpFamily) : Report (addressId family) :=
  let egress :=
    match family with
    | .v6 => state.egressV6
    | _ => state.egressV4
  let builder := CheckBuilder.new (addressId family) s!"{familyLabel family} address assigned"
    |>.family family
    |>.dependsOn ["iface.active"]
  -- The other family's egress interface stands in: a v6-only network has no v4 egress.
  match (egress.or state.egressV4).or state.egressV6 with
  | none => builder.skip "no egress interface was identified"
  | some iface =>
    let ofFamily (a : LinkAddress) : Bool :=
      ((a.ipPrefix.bind WirePrefix.ip).map (fun ip =>
        match family with
        | .v6 => ip.isIpv6
        | _ => ip.isIpv4)).getD false
    let addresses := (iface.addresses.filter ofFamily).map (fun a =>
      s!"{(a.ipPrefix.map WirePrefix.display).getD default} ({a.scope.debug})")
    let builder := builder
      |>.ev "interface" iface.name
      |>.ev "addresses" (", ".intercalate addresses)
    let builder :=
      if family = .v6 then
        let sysctls := iface.sysctls.getD {}
        builder
          |>.ev "disable_ipv6" (toString sysctls.ipv6Disabled)
          |>.ev "accept_ra" (toString sysctls.acceptRa)
      else builder
    let tentative := iface.addresses.any (fun a =>
      (a.flags.map (·.tentative)).getD false &&
        ((a.ipPrefix.bind WirePrefix.ip).map IpAddr.isIpv6).getD false)
    if iface.hasGlobalAddress family then
      builder.pass (s!"{iface.name} has a global {familyLabel family} address: " ++
        ", ".intercalate addresses)
    else if family = .v6 && tentative then
      builder.warn (s!"{iface.name} has only tentative IPv6 addresses; duplicate address " ++
        "detection has not finished")
    else if family = .v6 && (iface.sysctls.map (·.ipv6Disabled)).getD false then
      builder.fail s!"IPv6 is disabled on {iface.name} by the disable_ipv6 sysctl"
    else
      builder.fail s!"{iface.name} has no global {familyLabel family} address"

/-- The check `check_default_route` files its report under. -/
def defaultRouteId : IpFamily → CheckId
  | .v6 => .ipv6DefaultRoute
  | _ => .ipv4DefaultRoute

/-- The text `check_default_route` gives a route. -/
def describeRoute (r : Route) : String :=
  let hop := r.nextHops.head?.getD {}
  s!"table {r.table} via {displayGateway hop} dev {hop.outInterfaceName} metric {r.priority}"

/-- `check_default_route`. -/
def checkDefaultRoute (state : DiagState) (family : IpFamily) : Report (defaultRouteId family) :=
  let lookup :=
    match family with
    | .v6 => state.lookupV6
    | _ => state.lookupV4
  let label := familyLabel family
  let builder := (CheckBuilder.new (defaultRouteId family) s!"{label} default route").family family
  -- Only the table the kernel chose counts; a default route in `main` is irrelevant to
  -- traffic that the uid rules send elsewhere.
  let table := lookup.route.map (·.table)
  let defaults := state.routes.filter (fun r => r.isDefault && r.family == family)
  let inTable := defaults.filter (fun r => some r.table == table)
  let builder := builder
    |>.ev "selected_table" ((table.map toString).getD "none")
    |>.ev "default_routes_total" (toString defaults.length)
    |>.ev "all_default_routes" (" | ".intercalate (defaults.map describeRoute))
  match inTable with
  | [] =>
    if defaults.isEmpty then
      builder.fail s!"there is no {label} default route in any table"
    else
      match table with
      -- The lookup failed, so there is no table to name: say which tables do have a route.
      | none =>
        builder.fail (s!"{defaults.length} default route(s) exist (in table(s) " ++
          displayTables (defaults.map (·.table)) ++
          ") but the kernel's policy lookup reaches none of them, so this traffic has no " ++
          s!"{label} path at all")
      | some table =>
        builder.fail (s!"there are {defaults.length} default route(s) for {label} but none in " ++
          s!"table {table}, which is the table this traffic uses")
  | [only] => builder.pass s!"{label} default route present: {describeRoute only}"
  | _ :: _ :: _ =>
    builder.warn (s!"table {table.getD 0} has {inTable.length} competing {label} default " ++
      "routes")

/-- `check_rule_coverage`. -/
def checkRuleCoverage (state : DiagState) : Report .routingRuleCoverage :=
  let uidRules := state.rules.filter (·.hasUidRange)
  let markRules := state.rules.filter (·.hasFwmark)
  let builder := CheckBuilder.new .routingRuleCoverage "Policy routing rule coverage"
    |>.ev "total_rules" (toString state.rules.length)
    |>.ev "uid_range_rules" (toString uidRules.length)
    |>.ev "fwmark_rules" (toString markRules.length)
    |>.ev "tables_referenced" (displayTables (state.rules.map (·.table)))
  -- A device without any rule could not route at all.
  if state.rules.isEmpty then
    builder.fail ("the kernel reports no policy routing rules at all, which is impossible on a " ++
      "healthy Android device")
  else if markRules.isEmpty then
    builder.warn ("no fwmark-based rules are installed; Android normally uses them to bind " ++
      "sockets to networks")
  else
    builder.pass (s!"{state.rules.length} rules installed, {markRules.length} of them " ++
      s!"selecting on fwmark and {uidRules.length} on uid ranges")

/-! ### Firewall -/

/-- `MATCH_BITS`. -/
def matchBits : List (Nat × String) :=
  [(1 <<< 0, "HAPPY_BOX (metered allowlist)"),
    (1 <<< 1, "PENALTY_BOX (metered denylist)"),
    (1 <<< 2, "DOZABLE (allowlisted while dozing)"),
    (1 <<< 3, "STANDBY (denied while in app standby)"),
    (1 <<< 4, "POWERSAVE (allowlisted in battery saver)"),
    (1 <<< 5, "RESTRICTED (allowlisted in restricted mode)"),
    (1 <<< 6, "LOW_POWER_STANDBY (allowlisted)"),
    (1 <<< 7, "IIF (restricted to an input interface)"),
    (1 <<< 8, "LOCKDOWN_VPN (blocked outside the VPN)"),
    (1 <<< 9, "OEM_DENY_1"),
    (1 <<< 10, "OEM_DENY_2"),
    (1 <<< 11, "OEM_DENY_3"),
    (1 <<< 12, "BACKGROUND (denied in background)")]

/-- `DENY_BITS`. -/
def denyBits : Nat := (1 <<< 1) ||| (1 <<< 8) ||| (1 <<< 9) ||| (1 <<< 10) ||| (1 <<< 11)

/-- `decode_match_bits`. -/
def decodeMatchBits (rule : Nat) : List String :=
  let names := (matchBits.filter (fun b => rule &&& b.1 != 0)).map Prod.snd
  let known := (matchBits.map Prod.fst).sum
  let unknown := rule - (rule &&& known)
  if unknown ≠ 0 then names ++ [s!"unknown bits 0x{hex unknown}"] else names

/-- `UidFirewallState`. -/
structure UidFirewallState where
  rawMatch : Nat := 0
  sourceAvailable : Bool := false
  deriving DecidableEq, Repr

/-- `is_unambiguously_denied`. -/
def UidFirewallState.isUnambiguouslyDenied (s : UidFirewallState) : Bool :=
  s.sourceAvailable && s.rawMatch &&& denyBits != 0

/-- `FirewallState`, as `firewall::collect` reports it. -/
structure FirewallState where
  backendsDetected : List Int := []
  bpfPinnedObjects : List String := []
  collectionNote : String := ""
  deriving DecidableEq, Repr

/-- `check_firewall`, given what netd's maps hold. -/
def checkFirewall (request : DiagnoseRequest) (firewall : FirewallState)
    (readUidFirewall : Nat → UidFirewallState) : Report .firewallAnomaly :=
  let builder := CheckBuilder.new .firewallAnomaly "Firewall interaction"
  let target := request.target.getD {}
  -- Without a uid to ask about, only the surface is reported.
  if !target.hasAsUid then
    builder
      |>.ev "backends" ("[" ++ ", ".intercalate (firewall.backendsDetected.map toString) ++ "]")
      |>.ev "bpf_objects" (toString firewall.bpfPinnedObjects.length)
      |>.ev "note" firewall.collectionNote
      |>.info firewall.collectionNote
  else
    let uid := target.asUid
    let uidState := readUidFirewall uid
    let names := ", ".intercalate (decodeMatchBits uidState.rawMatch)
    let builder := builder
      |>.ev "uid" (toString uid)
      |>.ev "raw_match" s!"0x{hex uidState.rawMatch}"
      |>.ev "matches" names
      |>.ev "source_available" (toString uidState.sourceAvailable)
    if !uidState.sourceAvailable then
      builder.skip ("netd's eBPF uid_owner_map could not be read, so per-app firewall state is " ++
        "not determinable")
    else if uidState.isUnambiguouslyDenied then
      builder.fail s!"uid {uid} is denied by a firewall rule: {names}"
    else if uidState.rawMatch = 0 then
      builder.pass s!"no per-uid firewall rules apply to uid {uid}"
    else
      builder.info s!"uid {uid} has firewall bits set: {names}"

/-! ### Sockets -/

/-- `SYN_SENT_THRESHOLD`. -/
def synSentThreshold : Nat := 5

/-- `CLOSE_WAIT_THRESHOLD`. -/
def closeWaitThreshold : Nat := 20

/-- `check_socket_states`.  The ratio the source compares with 0.25 is one of socket counts,
    far below the 2^24 up to which an `f32` holds them exactly. -/
def checkSocketStates (state : DiagState) : Report .suspiciousTcpStates :=
  let summary := state.socketSummary
  let synSentV6 := (state.sockets.filter (fun s => s.state == .synSent && s.family == .v6)).length
  let synSentV4 := summary.synSent - min synSentV6 summary.synSent
  let builder := CheckBuilder.new .suspiciousTcpStates "TCP socket states"
    |>.ev "syn_sent_v4" (toString synSentV4)
    |>.ev "syn_sent_v6" (toString synSentV6)
    |>.ev "total" (toString summary.total)
    |>.ev "established" (toString summary.established)
    |>.ev "syn_sent" (toString summary.synSent)
    |>.ev "close_wait" (toString summary.closeWait)
    |>.ev "fin_wait" (toString summary.finWait)
    |>.ev "time_wait" (toString summary.timeWait)
    |>.ev "retransmitting" (toString summary.retransmitting)
  if summary.total = 0 then
    builder.skip "no sockets were readable"
  else if synSentThreshold ≤ summary.synSent then
    builder.fail (s!"{summary.synSent} sockets are stuck in SYN_SENT: SYNs are leaving and " ++
      "nothing is answering")
  else if closeWaitThreshold ≤ summary.closeWait then
    builder.warn (s!"{summary.closeWait} sockets are in CLOSE_WAIT, which usually means an app " ++
      "is not closing connections the peer already finished with")
  -- `retransmitting / established > 0.25`, cleared of its denominator.
  else if 0 < summary.retransmitting && 0 < summary.established &&
      summary.established < 4 * summary.retransmitting then
    builder.warn (s!"{summary.retransmitting} of {summary.established} established " ++
      "connections are retransmitting")
  else
    builder.pass
      s!"{summary.total} sockets, {summary.established} established, nothing stuck"

/-! ### Framework against kernel -/

/-- What the framework and the kernel disagree about on the interface the framework names. -/
def interfaceDisagreements (interfaces : List Interface) (lp : LinkPropertiesInfo) :
    List String :=
  match interfaces.find? (fun i => i.name == lp.interfaceName) with
  | none =>
    if lp.interfaceName.isEmpty then []
    else [s!"the framework names interface {lp.interfaceName} but the kernel has no such " ++
      "interface"]
  | some iface =>
    let down :=
      if iface.isUp then []
      else [s!"the framework is using {iface.name} but the kernel has it DOWN"]
    let mtu :=
      if 0 < lp.mtu && 0 < iface.mtu && lp.mtu != (iface.mtu : Int) then
        [s!"MTU mismatch on {iface.name}: framework says {lp.mtu}, kernel says {iface.mtu}"]
      else []
    let kernelAddrs := iface.addresses.filterMap (fun a => a.ipPrefix.map WirePrefix.display)
    let addresses := (lp.linkAddresses.map WirePrefix.display).filterMap (fun text =>
      if kernelAddrs.contains text then none
      else some (s!"the framework reports address {text} on {iface.name} but the kernel does " ++
        "not have it"))
    down ++ mtu ++ addresses

/-- `check_framework_agreement`. -/
def checkFrameworkAgreement (state : DiagState) : Report .frameworkKernelAgreement :=
  let builder := CheckBuilder.new .frameworkKernelAgreement "Framework and kernel agree"
  match state.network with
  | none => builder.skip "no framework state to compare against"
  | some network =>
  match network.linkProperties with
  | none => builder.skip "the framework reported no LinkProperties"
  | some lp =>
    let hasDefault (ofFamily : IpAddr → Bool) : Bool :=
      lp.routes.any (fun r =>
        r.isDefault && ((r.destination.bind WirePrefix.ip).map ofFamily).getD false)
    let frameworkDefaultV4 := hasDefault IpAddr.isIpv4
    let frameworkDefaultV6 := hasDefault IpAddr.isIpv6
    -- The kernel is asked by a lookup, not by its tables.
    let kernelDefaultV4 := state.lookupV4.route.isSome
    let kernelDefaultV6 := state.lookupV6.route.isSome
    let v6 :=
      if frameworkDefaultV6 && !kernelDefaultV6 then
        ["the framework lists an IPv6 default route but the kernel cannot route IPv6 to the " ++
          "internet"]
      else []
    let v4 :=
      if frameworkDefaultV4 && !kernelDefaultV4 then
        ["the framework lists an IPv4 default route but the kernel cannot route IPv4 to the " ++
          "internet"]
      else []
    let disagreements := interfaceDisagreements state.interfaces lp ++ v6 ++ v4
    let builder := builder
      |>.ev "framework_interface" lp.interfaceName
      |>.ev "framework_mtu" (toString lp.mtu)
      |>.ev "framework_default_routes" s!"v4={frameworkDefaultV4} v6={frameworkDefaultV6}"
      |>.ev "kernel_default_routes" s!"v4={kernelDefaultV4} v6={kernelDefaultV6}"
      |>.ev "disagreements" (toString disagreements.length)
    if disagreements.isEmpty then
      builder.pass
        "the framework's view of interfaces, addresses and routes matches the kernel"
    else builder.fail ("; ".intercalate disagreements)

/-- `check_captive_portal`. -/
def checkCaptivePortal (state : DiagState) : Report .captivePortal :=
  let builder := CheckBuilder.new .captivePortal "Captive portal"
  match state.network with
  | none => builder.skip "no framework state; captive portal status comes from Android"
  | some network =>
    let caps := network.capabilities.getD {}
    let builder := builder
      |>.ev "captive_portal_capability" (toString caps.captivePortal)
      |>.ev "validated" (toString caps.validated)
      |>.ev "captive_portal_api_url"
        ((network.linkProperties.map (·.captivePortalApiUrl)).getD "")
    if caps.captivePortal then
      builder.fail ("Android has detected a captive portal; traffic is being intercepted until " ++
        "the portal is satisfied")
    -- Not seen yet, or not there.
    else if !caps.validated && caps.internet then
      builder.warn ("the network is not validated; a captive portal that Android has not " ++
        "classified yet would look exactly like this")
    else builder.pass "no captive portal detected"

end Netdiag.Diag
