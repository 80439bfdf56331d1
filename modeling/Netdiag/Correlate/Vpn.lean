import Netdiag.Diag.State

namespace Netdiag.Correlate

/-!
# Per-app view — VPN assessment

`assess_vpn` of `daemon/src/correlate.rs`: whether an app's traffic uses the VPN, and if not,
which rule takes it around.
-/

open Netdiag.Diag

/-- `VpnAssessment`. -/
structure VpnAssessment where
  vpnPresent : Bool := false
  vpnInterface : String := ""
  vpnNetId : Int := 0
  appUsesVpn : Bool := false
  appBypassesVpn : Bool := false
  bypassReason : String := ""
  frameworkSaysInVpn : Bool := false
  disagreement : Bool := false
  splitTunnel : Bool := false
  ipv6InsideVpn : Bool := false
  deriving DecidableEq, Repr

/-- The rule names `uid`. -/
def coversUid (r : RoutingRule) (uid : Nat) : Bool :=
  r.hasUidRange && decide (r.uidRangeStart ≤ uid) && decide (uid ≤ r.uidRangeEnd)

/-- The lookup's first hop leaves through interface `index`. -/
def inVpn (lookup : RouteLookup) (index : Nat) : Bool :=
  ((firstHop lookup).map (fun h => h.outInterfaceIndex == index)).getD false

/-- `u32 as i32`: the same bits, read as a signed number. -/
def asI32 (n : Nat) : Int := if n < 2 ^ 31 then n else (n : Int) - 2 ^ 32

/-- Why an app's traffic does not use the VPN; empty when it does. -/
def bypassReason (rules : List RoutingRule) (vpnTables : List Nat) (uid : Nat) (usesVpn : Bool) :
    String :=
  let vpnUidRules := rules.filter (fun r => r.hasUidRange && vpnTables.contains r.table)
  let coveredByVpnRule := vpnUidRules.any (fun r =>
    decide (r.uidRangeStart ≤ uid) && decide (uid ≤ r.uidRangeEnd) && !r.invert)
  match rules.find? (fun r => coversUid r uid && r.invert) with
  -- An inverted rule that covers the uid excludes it, whatever the lookup says.
  | some rule =>
    s!"rule priority {rule.priority} explicitly excludes uids " ++
      s!"{rule.uidRangeStart}-{rule.uidRangeEnd} from table {rule.table}"
  | none =>
    -- There are ranges into the tunnel's table, and the uid is in none.
    if !usesVpn && !vpnUidRules.isEmpty && !coveredByVpnRule then
      s!"uid {uid} falls outside all {vpnUidRules.length} uid range(s) that route into the " ++
        "VPN's table, so the VPN app's per-app list excludes this app"
    else if !usesVpn then
      match rules.find? (fun r => coversUid r uid && !r.invert) with
      | some rule =>
        s!"rule priority {rule.priority} sends uids {rule.uidRangeStart}-{rule.uidRangeEnd} " ++
          s!"to table {rule.table} instead of the VPN"
      | none => "the kernel route lookup does not select the VPN interface"
    else ""

/-- `assess_vpn`. -/
def assessVpn (interfaces : List Interface) (rules : List RoutingRule) (vpnTables : List Nat)
    (uid : Nat) (lookupV4 lookupV6 : RouteLookup) (androidState : Option AndroidNetworkState) :
    VpnAssessment :=
  -- The first tunnel that is up; no other one is looked at.
  match interfaces.find? Interface.isUpVpn with
  | none => {}
  | some vpn =>
    let usesVpn := inVpn lookupV4 vpn.index || inVpn lookupV6 vpn.index
    -- The framework's VPN need not be this one.
    let vpnNetwork := androidState.bind (fun s => s.networks.find? AndroidNetwork.isVpn)
    let frameworkSaysInVpn :=
      ((vpnNetwork.bind (·.capabilities)).map (fun caps =>
        caps.vpnUidRanges.isEmpty || caps.vpnUidRanges.any (fun r =>
          decide (r.start ≤ asI32 uid) && decide (asI32 uid ≤ r.stop)))).getD false
    let ipv6InsideVpn := inVpn lookupV6 vpn.index
    let v4InVpn := inVpn lookupV4 vpn.index
    { vpnPresent := true
      vpnInterface := vpn.name
      vpnNetId := (vpnNetwork.map (·.netId)).getD 0
      appUsesVpn := usesVpn
      appBypassesVpn := !usesVpn
      bypassReason := bypassReason rules vpnTables uid usesVpn
      frameworkSaysInVpn
      disagreement := frameworkSaysInVpn != usesVpn
      splitTunnel := v4InVpn != ipv6InsideVpn
      ipv6InsideVpn }

end Netdiag.Correlate
