import Netdiag.Net.Addr
import Netdiag.Ipc.Frame
import Mathlib.Data.List.Induction

namespace Netdiag

/-!
# Messages

The messages of `link.proto`, `route.proto`, `socket.proto`, `system.proto` and
`android.proto` that the diagnosis and the per-app view read, with the fields they read.

* `IpAddress` / `WirePrefix` — addresses as the bytes of the message, parsed by `toIp`.
* `Interface`, `Route`, `RouteLookup`, `RoutingRule`, `Neighbor` — what the collectors report.
* `AndroidNetwork` — what the app reports.  An enumeration the app fills in is the `i32` of
  the message (`Int`); one the daemon fills in is an inductive type.
-/

/-! ### Addresses on the wire -/

/-- A big-endian byte string as a bit vector. -/
def ofBytes (w : Nat) (bytes : List (BitVec 8)) : BitVec w :=
  bytes.foldl (fun acc b => (acc <<< 8) ||| b.setWidth w) 0

theorem ofBytes_append (w : Nat) (bs : List (BitVec 8)) (b : BitVec 8) :
    ofBytes w (bs ++ [b]) = (ofBytes w bs <<< 8) ||| b.setWidth w := by
  simp [ofBytes]

/-- Bit `8 k + j` of a byte string is bit `j` of its `k`-th byte from the end. -/
theorem ofBytes_getLsbD {w : Nat} (bs : List (BitVec 8)) {k j : Nat} (hj : j < 8)
    (hk : 8 * k + j < w) :
    (ofBytes w bs).getLsbD (8 * k + j) = (bs.reverse.getD k 0).getLsbD j := by
  induction bs using List.reverseRecOn generalizing k with
  | nil => simp [ofBytes]
  | append_singleton bs b ih =>
    rw [ofBytes_append]
    cases k with
    | zero => simp [hj, show j < w by omega]
    | succ k =>
      have hshift : 8 * (k + 1) + j - 8 = 8 * k + j := by omega
      have hhigh : b.getLsbD (8 * (k + 1) + j) = false := BitVec.getLsbD_of_ge _ _ (by omega)
      have hbit := ih (k := k) (by omega)
      rw [BitVec.getLsbD_or, BitVec.getLsbD_shiftLeft, BitVec.getLsbD_setWidth, hshift, hhigh, hbit]
      simp [hk, show ¬ 8 * (k + 1) + j < 8 by omega]

/-- The byte `k` places from the end, cut out of the bit vector. -/
theorem ofBytes_shift {w : Nat} (bs : List (BitVec 8)) {k : Nat} (hk : 8 * k + 8 ≤ w) :
    (ofBytes w bs >>> (8 * k)).setWidth 8 = bs.reverse.getD k 0 := by
  apply BitVec.eq_of_getLsbD_eq
  intro j hj
  rw [BitVec.getLsbD_setWidth, BitVec.getLsbD_ushiftRight, ofBytes_getLsbD bs hj (by omega)]
  simp [hj]

/-- A bit vector is put together from its bytes. -/
theorem ofBytes_eq {w : Nat} {bs : List (BitVec 8)} {bits : BitVec w}
    (h : ∀ k, 8 * k < w → bs.reverse.getD k 0 = (bits >>> (8 * k)).setWidth 8) :
    ofBytes w bs = bits := by
  apply BitVec.eq_of_getLsbD_eq
  intro i hi
  have hmod : i % 8 < 8 := Nat.mod_lt i (by decide)
  have hsplit : 8 * (i / 8) + i % 8 = i := Nat.div_add_mod i 8
  have hbyte := ofBytes_getLsbD bs hmod (by omega : 8 * (i / 8) + i % 8 < w)
  rw [hsplit, h (i / 8) (by omega)] at hbyte
  rw [hbyte, BitVec.getLsbD_setWidth, BitVec.getLsbD_ushiftRight, hsplit]
  simp [hmod]

/-- `IpAddress`: four or sixteen bytes when it is set. -/
structure IpAddress where
  addr : List (BitVec 8)
  deriving DecidableEq, Repr

namespace IpAddress

/-- `IpAddress::to_ip`. -/
def toIp (a : IpAddress) : Option IpAddr :=
  match a.addr.length with
  | 4 => some (.v4 (ofBytes 32 a.addr))
  | 16 => some (.v6 (ofBytes 128 a.addr))
  | _ => none

/-- `IpAddress::display`. -/
def display (a : IpAddress) : String :=
  match a.toIp with
  | some ip => ip.display
  | none => "-"

end IpAddress

/-- `IpPrefix` as it comes off the wire: the address may be missing or malformed. -/
structure WirePrefix where
  address : Option IpAddress
  prefixLen : Nat
  deriving DecidableEq, Repr

namespace WirePrefix

/-- `IpPrefix::ip`. -/
def ip (p : WirePrefix) : Option IpAddr := p.address.bind IpAddress.toIp

/-- `IpPrefix::display`. -/
def display (p : WirePrefix) : String :=
  match p.ip with
  | some ip => s!"{ip.display}/{p.prefixLen}"
  | none => s!"*/{p.prefixLen}"

end WirePrefix

/-- `std::net::SocketAddr`. -/
structure SocketAddr where
  ip : IpAddr
  port : Nat
  deriving DecidableEq, Repr

/-! ### Links -/

/-- `LinkKind`. -/
inductive LinkKind
  | unspecified
  | loopback
  | wifi
  | cellular
  | ethernet
  | vpnTun
  | bluetooth
  | clat
  | bridge
  | dummy
  | other
  deriving DecidableEq, Repr

/-- `Debug` of a `LinkKind`. -/
def LinkKind.debug : LinkKind → String
  | .unspecified => "Unspecified"
  | .loopback => "Loopback"
  | .wifi => "Wifi"
  | .cellular => "Cellular"
  | .ethernet => "Ethernet"
  | .vpnTun => "VpnTun"
  | .bluetooth => "Bluetooth"
  | .clat => "Clat"
  | .bridge => "Bridge"
  | .dummy => "Dummy"
  | .other => "Other"

/-- `OperState`. -/
inductive OperState
  | unspecified
  | unknown
  | notPresent
  | down
  | lowerLayerDown
  | testing
  | dormant
  | up
  deriving DecidableEq, Repr

/-- `Debug` of an `OperState`. -/
def OperState.debug : OperState → String
  | .unspecified => "Unspecified"
  | .unknown => "Unknown"
  | .notPresent => "NotPresent"
  | .down => "Down"
  | .lowerLayerDown => "LowerLayerDown"
  | .testing => "Testing"
  | .dormant => "Dormant"
  | .up => "Up"

/-- `AddressScope`. -/
inductive AddressScope
  | unspecified
  | global
  | site
  | link
  | host
  | nowhere
  deriving DecidableEq, Repr

/-- `Debug` of an `AddressScope`. -/
def AddressScope.debug : AddressScope → String
  | .unspecified => "Unspecified"
  | .global => "Global"
  | .site => "Site"
  | .link => "Link"
  | .host => "Host"
  | .nowhere => "Nowhere"

/-- `LinkFlags`. -/
structure LinkFlags where
  up : Bool := false
  running : Bool := false
  deriving DecidableEq, Repr

/-- `AddressFlags`. -/
structure AddressFlags where
  tentative : Bool := false
  dadfailed : Bool := false
  deriving DecidableEq, Repr

/-- `LinkAddress`. -/
structure LinkAddress where
  ipPrefix : Option WirePrefix := none
  scope : AddressScope := .unspecified
  flags : Option AddressFlags := none
  deriving DecidableEq, Repr

/-- `InterfaceSysctls`. -/
structure InterfaceSysctls where
  ipv6Disabled : Bool := false
  acceptRa : Int := 0
  deriving DecidableEq, Repr

/-- `Interface`. -/
structure Interface where
  index : Nat := 0
  name : String := ""
  kind : LinkKind := .unspecified
  flags : Option LinkFlags := none
  operState : OperState := .unspecified
  mtu : Nat := 0
  addresses : List LinkAddress := []
  sysctls : Option InterfaceSysctls := none
  deriving DecidableEq, Repr

namespace Interface

/-- `flags.as_ref().map(|f| f.up).unwrap_or(false)`. -/
def isUp (i : Interface) : Bool := (i.flags.map LinkFlags.up).getD false

/-- An interface the VPN code looks for: a tun device that is up. -/
def isUpVpn (i : Interface) : Bool := i.kind == .vpnTun && i.isUp

/-- `links::has_global_address`. -/
def hasGlobalAddress (i : Interface) (family : IpFamily) : Bool :=
  i.addresses.any (fun a =>
    match a.ipPrefix.bind WirePrefix.ip with
    | none => false
    | some ip =>
      let matchesFamily :=
        match family with
        | .v4 => ip.isIpv4
        | .v6 => ip.isIpv6
        | .unspecified => true
      matchesFamily && a.scope == .global &&
        !((a.flags.map (fun f => f.tentative || f.dadfailed)).getD false))

end Interface

/-! ### Routes, rules and neighbours -/

/-- `RouteType`. -/
inductive RouteType
  | unspecified
  | unicast
  | local_
  | broadcast
  | anycast
  | multicast
  | blackhole
  | unreachable
  | prohibit
  | throw
  | nat
  deriving DecidableEq, Repr

/-- `NextHop`. -/
structure NextHop where
  gateway : Option IpAddress := none
  outInterfaceIndex : Nat := 0
  outInterfaceName : String := ""
  deriving DecidableEq, Repr

/-- `RouteMetrics`. -/
structure RouteMetrics where
  mtu : Nat := 0
  deriving DecidableEq, Repr

/-- `Route`. -/
structure Route where
  family : IpFamily := .unspecified
  preferredSource : Option IpAddress := none
  table : Nat := 0
  tableName : String := ""
  type : RouteType := .unspecified
  priority : Nat := 0
  nextHops : List NextHop := []
  metrics : Option RouteMetrics := none
  isDefault : Bool := false
  deriving DecidableEq, Repr

/-- `RouteLookup`: the kernel's answer for one destination. -/
structure RouteLookup where
  uid : Nat := 0
  fwmark : Nat := 0
  route : Option Route := none
  error : Option Ipc.Error := none
  deriving DecidableEq, Repr

/-- `RoutingRule`. -/
structure RoutingRule where
  priority : Nat := 0
  hasFwmark : Bool := false
  uidRangeStart : Nat := 0
  uidRangeEnd : Nat := 0
  hasUidRange : Bool := false
  table : Nat := 0
  invert : Bool := false
  deriving DecidableEq, Repr

/-- `NeighborState`. -/
inductive NeighborState
  | unspecified
  | incomplete
  | reachable
  | stale
  | delay
  | probe
  | failed
  | noarp
  | permanent
  | none
  deriving DecidableEq, Repr

namespace NeighborState

/-- `Debug` of a `NeighborState`. -/
def debug : NeighborState → String
  | .unspecified => "Unspecified"
  | .incomplete => "Incomplete"
  | .reachable => "Reachable"
  | .stale => "Stale"
  | .delay => "Delay"
  | .probe => "Probe"
  | .failed => "Failed"
  | .noarp => "Noarp"
  | .permanent => "Permanent"
  | .none => "None"

/-- `neigh::is_usable`. -/
def isUsable : NeighborState → Bool
  | .reachable | .stale | .delay | .probe | .permanent | .noarp => true
  | _ => false

end NeighborState

/-- `Neighbor`. -/
structure Neighbor where
  address : Option IpAddress := none
  linkAddress : List (BitVec 8) := []
  interfaceIndex : Nat := 0
  state : NeighborState := .unspecified
  deriving DecidableEq, Repr

/-- `neigh::find_gateway`: index zero stands for any interface. -/
def findGateway (neighbors : List Neighbor) (gateway : IpAddr) (interfaceIndex : Nat) :
    Option Neighbor :=
  neighbors.find? (fun n =>
    n.address.bind IpAddress.toIp == some gateway &&
      (interfaceIndex == 0 || n.interfaceIndex == interfaceIndex))

/-! ### Sockets -/

/-- `TcpState`. -/
inductive TcpState
  | unspecified
  | established
  | synSent
  | synRecv
  | finWait1
  | finWait2
  | timeWait
  | close
  | closeWait
  | lastAck
  | listen
  | closing
  | newSynRecv
  deriving DecidableEq, Repr

/-- `Socket`. -/
structure Socket where
  family : IpFamily := .unspecified
  state : TcpState := .unspecified
  deriving DecidableEq, Repr

/-- `SocketSummary`. -/
structure SocketSummary where
  total : Nat := 0
  established : Nat := 0
  synSent : Nat := 0
  closeWait : Nat := 0
  finWait : Nat := 0
  timeWait : Nat := 0
  retransmitting : Nat := 0
  deriving DecidableEq, Repr

/-- `Clat464State`. -/
structure Clat464State where
  active : Bool := false
  clatInterface : String := ""
  deriving DecidableEq, Repr

/-! ### What the app reports -/

/-- `Transport`. -/
inductive Transport
  | unspecified
  | cellular
  | wifi
  | bluetooth
  | ethernet
  | vpn
  | wifiAware
  | lowpan
  | usb
  | thread
  | satellite
  deriving DecidableEq, Repr

namespace Transport

/-- The number of a transport on the wire. -/
def toInt : Transport → Int
  | .unspecified => 0
  | .cellular => 1
  | .wifi => 2
  | .bluetooth => 3
  | .ethernet => 4
  | .vpn => 5
  | .wifiAware => 6
  | .lowpan => 7
  | .usb => 8
  | .thread => 9
  | .satellite => 10

/-- `Transport::try_from`. -/
def tryFrom (n : Int) : Option Transport :=
  [unspecified, cellular, wifi, bluetooth, ethernet, vpn, wifiAware, lowpan, usb, thread,
    satellite].find? (fun t => t.toInt == n)

end Transport

/-- `PrivateDnsMode`. -/
inductive PrivateDnsMode
  | unspecified
  | off
  | opportunistic
  | strict
  deriving DecidableEq, Repr

namespace PrivateDnsMode

/-- The number of a mode on the wire. -/
def toInt : PrivateDnsMode → Int
  | .unspecified => 0
  | .off => 1
  | .opportunistic => 2
  | .strict => 3

/-- `PrivateDnsMode::try_from`. -/
def tryFrom (n : Int) : Option PrivateDnsMode :=
  if n = 0 then some .unspecified
  else if n = 1 then some .off
  else if n = 2 then some .opportunistic
  else if n = 3 then some .strict
  else none

/-- `Debug` of a `PrivateDnsMode`. -/
def debug : PrivateDnsMode → String
  | .unspecified => "Unspecified"
  | .off => "Off"
  | .opportunistic => "Opportunistic"
  | .strict => "Strict"

end PrivateDnsMode

/-- `UidRange`. -/
structure UidRange where
  start : Int
  stop : Int
  deriving DecidableEq, Repr

/-- `NetworkCapabilitiesInfo`. -/
structure NetworkCapabilitiesInfo where
  internet : Bool := false
  validated : Bool := false
  captivePortal : Bool := false
  notRestricted : Bool := false
  notMetered : Bool := false
  notRoaming : Bool := false
  notCongested : Bool := false
  notSuspended : Bool := false
  notVpn : Bool := false
  partialConnectivity : Bool := false
  trusted : Bool := false
  foreground : Bool := false
  vpnUidRanges : List UidRange := []
  deriving DecidableEq, Repr

/-- `AndroidRoute`. -/
structure AndroidRoute where
  destination : Option WirePrefix := none
  isDefault : Bool := false
  deriving DecidableEq, Repr

/-- `LinkPropertiesInfo`. -/
structure LinkPropertiesInfo where
  interfaceName : String := ""
  linkAddresses : List WirePrefix := []
  dnsServers : List IpAddress := []
  domains : List String := []
  routes : List AndroidRoute := []
  mtu : Int := 0
  privateDnsMode : Int := 0
  privateDnsServerName : String := ""
  privateDnsActive : Bool := false
  validatedPrivateDnsServers : List IpAddress := []
  nat64Prefix : Option WirePrefix := none
  captivePortalApiUrl : String := ""
  deriving DecidableEq, Repr

/-- `AndroidNetwork`. -/
structure AndroidNetwork where
  networkHandle : Nat := 0
  netId : Int := 0
  transports : List Int := []
  capabilities : Option NetworkCapabilitiesInfo := none
  linkProperties : Option LinkPropertiesInfo := none
  isDefault : Bool := false
  deriving DecidableEq, Repr

/-- `AndroidNetworkState`. -/
structure AndroidNetworkState where
  networks : List AndroidNetwork := []
  activeNetworkHandle : Nat := 0
  activeNetId : Int := 0
  hasActiveNetwork : Bool := false
  dataSaverEnabled : Bool := false
  restrictBackgroundStatus : Int := 0
  sdkInt : Int := 0
  capturedAtUnixMs : Int := 0
  deriving DecidableEq, Repr

/-- `n.transports.contains(&(Transport::Vpn as i32))`. -/
def AndroidNetwork.isVpn (n : AndroidNetwork) : Bool := n.transports.contains Transport.vpn.toInt

end Netdiag
