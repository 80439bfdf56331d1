import Netdiag.Collect.Rules
import Netdiag.Lib.Sorted
import Netdiag.Watch.Neighbors

namespace Netdiag.Collect

/-!
# Collectors — routes

`route_to_proto` and `get_routes` of `daemon/src/collect/routes.rs`: the routes of every table,
sorted by table, then by prefix length with the longest first, then by metric.

* `routeToProto` — the route of a kernel message, attribute by attribute.
* `getRoutes` — the dumps that are asked for, filtered and sorted.
* `Selects` — the route of a table that forwards to an address: longest prefix, then lowest
  metric, then the order of the kernel.
* `first_covering_iff` — the first route of the reported table that covers an address is that
  route.
-/

open Netdiag.Watch (fromIp)

/-! ### Messages -/

/-- `AddressFamily` of a header. -/
inductive AddressFamily
  | inet
  | inet6
  | other (n : Nat)
  deriving DecidableEq, Repr

/-- The `match` on the family that every collector makes. -/
def AddressFamily.toProto : AddressFamily → IpFamily
  | .inet => .v4
  | .inet6 => .v6
  | .other _ => .unspecified

/-- `RouteProtocol` of a header; the number of one the code does not name. -/
inductive KernelRouteProtocol
  | unspec
  | icmpRedirect
  | kernel
  | boot
  | static
  | ra
  | dhcp
  | other (n : Nat)
  deriving DecidableEq, Repr

/-- `u8::from(protocol)`. -/
def KernelRouteProtocol.raw : KernelRouteProtocol → Nat
  | .unspec => 0
  | .icmpRedirect => 1
  | .kernel => 2
  | .boot => 3
  | .static => 4
  | .ra => 9
  | .dhcp => 16
  | .other n => n

/-- `RouteScope` of a header. -/
inductive KernelRouteScope
  | universe
  | site
  | link
  | host
  | noWhere
  | other (n : Nat)
  deriving DecidableEq, Repr

/-- `RouteType` of a header. -/
inductive KernelRouteType
  | unspec
  | unicast
  | local_
  | broadcast
  | anycast
  | multicast
  | blackHole
  | unreachable
  | prohibit
  | throw
  | nat
  | other (n : Nat)
  deriving DecidableEq, Repr

/-- `RouteAddress`. -/
inductive RouteAddress
  | inet (a : BitVec 32)
  | inet6 (a : BitVec 128)
  | other
  deriving DecidableEq, Repr

/-- `RouteMetric`. -/
inductive RouteMetric
  | mtu (v : Nat)
  | lock (v : Nat)
  | advmss (v : Nat)
  | window (v : Nat)
  | hoplimit (v : Nat)
  | initCwnd (v : Nat)
  | initRwnd (v : Nat)
  | rtt (v : Nat)
  | other
  deriving DecidableEq, Repr

/-- The attributes of a `RouteNextHop`. -/
inductive HopAttribute
  | gateway (a : RouteAddress)
  | other
  deriving DecidableEq, Repr

/-- `RouteNextHop`. -/
structure RouteNextHop where
  flags : Nat
  hops : Nat
  interfaceIndex : Nat
  attributes : List HopAttribute
  deriving DecidableEq, Repr

/-- `RouteAttribute`; of `RTA_CACHEINFO` the expiry. -/
inductive RouteAttribute
  | table (t : Nat)
  | destination (a : RouteAddress)
  | source (a : RouteAddress)
  | prefSource (a : RouteAddress)
  | gateway (a : RouteAddress)
  | oif (i : Nat)
  | priority (p : Nat)
  | expires (e : Nat)
  | cacheInfo (expires : Nat)
  | metrics (ms : List RouteMetric)
  | multiPath (hops : List RouteNextHop)
  | uid (uid : Nat)
  | mark (mark : Nat)
  | other
  deriving DecidableEq, Repr

/-- `RouteHeader`. -/
structure RouteHeader where
  addressFamily : AddressFamily
  destinationPrefixLength : Nat := 0
  sourcePrefixLength : Nat := 0
  table : Nat := 0
  protocol : KernelRouteProtocol := .unspec
  scope : KernelRouteScope := .universe
  kind : KernelRouteType := .unspec
  flags : Nat := 0
  deriving DecidableEq, Repr

/-- `RouteMessage`. -/
structure RouteMessage where
  header : RouteHeader
  attributes : List RouteAttribute
  deriving DecidableEq, Repr

/-! ### Routes -/

/-- `RouteProtocol` of `route.proto`. -/
inductive RouteProtocol
  | unspecified
  | redirect
  | kernel
  | boot
  | static
  | ra
  | dhcp
  | other
  deriving DecidableEq, Repr

/-- `RouteScope` of `route.proto`. -/
inductive RouteScope
  | unspecified
  | universe
  | site
  | link
  | host
  | nowhere
  deriving DecidableEq, Repr

/-- `NextHop` with its weight and flags. -/
structure DumpedHop extends NextHop where
  weight : Nat := 0
  flags : Nat := 0
  deriving DecidableEq, Repr

/-- `RouteMetrics` with all the metrics. -/
structure DumpedMetrics extends RouteMetrics where
  mtuLocked : Bool := false
  advmss : Nat := 0
  window : Nat := 0
  hoplimit : Nat := 0
  initcwnd : Nat := 0
  initrwnd : Nat := 0
  rttMs : Nat := 0
  deriving DecidableEq, Repr

/-- `Route` with everything `route_to_proto` fills in. -/
structure DumpedRoute where
  family : IpFamily
  destination : Option WirePrefix
  preferredSource : Option IpAddress
  table : Nat
  tableName : String
  protocol : RouteProtocol
  protocolRaw : Nat
  scope : RouteScope
  type : RouteType
  priority : Nat
  nextHops : List DumpedHop
  metrics : Option DumpedMetrics
  flags : Nat
  expiresSec : Nat
  isDefault : Bool
  deriving DecidableEq, Repr

/-- The fields the diagnosis and the per-app view read. -/
def DumpedRoute.toRoute (r : DumpedRoute) : Route where
  family := r.family
  preferredSource := r.preferredSource
  table := r.table
  tableName := r.tableName
  type := r.type
  priority := r.priority
  nextHops := r.nextHops.map DumpedHop.toNextHop
  metrics := r.metrics.map DumpedMetrics.toRouteMetrics
  isDefault := r.isDefault

/-- `route_address_to_ip`. -/
def routeAddressToIp : RouteAddress → Option IpAddr
  | .inet a => some (.v4 a)
  | .inet6 a => some (.v6 a)
  | .other => none

/-- `route_protocol_to_proto`. -/
def routeProtocolToProto : KernelRouteProtocol → RouteProtocol
  | .icmpRedirect => .redirect
  | .kernel => .kernel
  | .boot => .boot
  | .static => .static
  | .ra => .ra
  | .dhcp => .dhcp
  | .unspec => .unspecified
  | .other _ => .other

/-- `route_scope_to_proto`. -/
def routeScopeToProto : KernelRouteScope → RouteScope
  | .universe => .universe
  | .site => .site
  | .link => .link
  | .host => .host
  | .noWhere => .nowhere
  | .other _ => .unspecified

/-- `route_type_to_proto`. -/
def routeTypeToProto : KernelRouteType → RouteType
  | .unicast => .unicast
  | .local_ => .local_
  | .broadcast => .broadcast
  | .anycast => .anycast
  | .multicast => .multicast
  | .blackHole => .blackhole
  | .unreachable => .unreachable
  | .prohibit => .prohibit
  | .throw => .throw
  | .nat => .nat
  | .unspec | .other _ => .unspecified

/-- `util::well_known_table_name`. -/
def wellKnownTableName : Nat → Option String
  | 255 => some "local"
  | 254 => some "main"
  | 253 => some "default"
  | 0 => some "unspec"
  | 97 => some "local_network"
  | 98 => some "legacy_system"
  | 99 => some "legacy_network"
  | 1003 => some "vpn_fallthrough"
  | _ => none

/-- `table_name`. -/
def tableName (table : Nat) : String := (wellKnownTableName table).getD s!"net{table}"

/-- The variables of `route_to_proto`. -/
structure RouteFields where
  table : Nat
  destination : Option IpAddr := none
  preferredSource : Option IpAddr := none
  gateway : Option IpAddr := none
  oif : Nat := 0
  priority : Nat := 0
  metrics : DumpedMetrics := {}
  expires : Nat := 0
  multipath : List DumpedHop := []
  deriving DecidableEq, Repr

/-- One metric. -/
def DumpedMetrics.applyMetric (metrics : DumpedMetrics) : RouteMetric → DumpedMetrics
  | .mtu v => { metrics with mtu := v }
  -- `RTAX_MTU` is bit 2 of the lock mask.
  | .lock v => { metrics with mtuLocked := v.testBit 2 }
  | .advmss v => { metrics with advmss := v }
  | .window v => { metrics with window := v }
  | .hoplimit v => { metrics with hoplimit := v }
  | .initCwnd v => { metrics with initcwnd := v }
  | .initRwnd v => { metrics with initrwnd := v }
  | .rtt v => { metrics with rttMs := v }
  | .other => metrics

/-- The gateway of a hop: the last one among its attributes. -/
def RouteNextHop.gateway (hop : RouteNextHop) : Option IpAddr :=
  hop.attributes.foldl (fun gw a => match a with
    | .gateway g => routeAddressToIp g
    | .other => gw) none

/-- A hop of a multipath route. -/
def RouteNextHop.toProto (hop : RouteNextHop) (ifNames : Nat → Option String) : DumpedHop where
  gateway := hop.gateway.map fromIp
  outInterfaceIndex := hop.interfaceIndex
  outInterfaceName := (ifNames hop.interfaceIndex).getD ""
  -- `rtnh_hops` is the weight less one.
  weight := hop.hops + 1
  flags := hop.flags

/-- One attribute. -/
def RouteFields.applyAttribute (ifNames : Nat → Option String) (f : RouteFields) :
    RouteAttribute → RouteFields
  | .table t => { f with table := t }
  | .destination a => { f with destination := routeAddressToIp a }
  | .prefSource a => { f with preferredSource := routeAddressToIp a }
  | .gateway a => { f with gateway := routeAddressToIp a }
  | .oif i => { f with oif := i }
  | .priority p => { f with priority := p }
  | .expires e => { f with expires := e }
  | .cacheInfo expires => if expires ≠ 0 then { f with expires } else f
  | .metrics ms => { f with metrics := ms.foldl DumpedMetrics.applyMetric f.metrics }
  | .multiPath hops => { f with multipath := f.multipath ++ hops.map (·.toProto ifNames) }
  | .source _ | .uid _ | .mark _ | .other => f

/-- What the attributes of a message say. -/
def routeFields (msg : RouteMessage) (ifNames : Nat → Option String) : RouteFields :=
  msg.attributes.foldl (RouteFields.applyAttribute ifNames) { table := msg.header.table }

/-- `route_to_proto`. -/
def routeToProto (msg : RouteMessage) (ifNames : Nat → Option String) : DumpedRoute :=
  let f := routeFields msg ifNames
  let prefixLen := msg.header.destinationPrefixLength
  { family := msg.header.addressFamily.toProto
    destination := some ⟨f.destination.map fromIp, prefixLen⟩
    preferredSource := f.preferredSource.map fromIp
    table := f.table
    tableName := tableName f.table
    protocol := routeProtocolToProto msg.header.protocol
    protocolRaw := msg.header.protocol.raw
    scope := routeScopeToProto msg.header.scope
    type := routeTypeToProto msg.header.kind
    priority := f.priority
    nextHops :=
      if f.multipath.isEmpty then
        [{ gateway := f.gateway.map fromIp, outInterfaceIndex := f.oif,
           outInterfaceName := (ifNames f.oif).getD "", weight := 1, flags := 0 }]
      else f.multipath
    metrics := some f.metrics
    flags := msg.header.flags
    expiresSec := f.expires
    isDefault := decide (prefixLen = 0 ∧ f.destination = none) }

/-! ### The dump -/

/-- What `get_routes` is asked for; zero stands for any table and any interface. -/
structure RouteQuery where
  family : IpFamily := .unspecified
  table : Nat := 0
  onlyDefault : Bool := false
  interfaceIndex : Nat := 0
  deriving DecidableEq, Repr

/-- The answers of the kernel to the two `RTM_GETROUTE` dumps. -/
abbrev RouteDumps := IpVersion → Except String (List RouteMessage)

/-- The `RouteDump` that is returned. -/
structure RouteDump where
  routes : List DumpedRoute
  tableNames : Nat → Option String

/-- The checks of the loop over one dump. -/
def RouteQuery.keeps (q : RouteQuery) (r : DumpedRoute) : Bool :=
  !(q.table != 0 && r.table != q.table) && !(q.onlyDefault && !r.isDefault) &&
    !(q.interfaceIndex != 0 &&
      !r.nextHops.any (fun nh => nh.outInterfaceIndex == q.interfaceIndex))

/-- `d.prefix_len`, zero without a destination. -/
def DumpedRoute.prefixLen (r : DumpedRoute) : Nat := (r.destination.map WirePrefix.prefixLen).getD 0

/-- The comparison of the sort. -/
def DumpedRoute.cmp (a b : DumpedRoute) : Ordering :=
  ((compare a.table b.table).then (compare b.prefixLen a.prefixLen)).then
    (compare a.priority b.priority)

def DumpedRoute.le (a b : DumpedRoute) : Bool := (a.cmp b).isLE

/-- One route of the loop that collects the names. -/
def nameTable (names : Nat → Option String) (r : DumpedRoute) : Nat → Option String :=
  if r.tableName ≠ "" then Function.update names r.table (some r.tableName) else names

/-- `table_names`: the names of the tables that occur. -/
def tableNames (routes : List DumpedRoute) : Nat → Option String :=
  routes.foldl nameTable (fun _ => none)

/-- The routes that are asked for, in the order of the kernel. -/
def dumpedRoutes (dumps : RouteDumps) (q : RouteQuery) (ifNames : Nat → Option String) :
    Except String (List DumpedRoute) := do
  let dumped ← (versions q.family).mapM dumps
  return (dumped.flatten.map (routeToProto · ifNames)).filter q.keeps

/-- `get_routes`. -/
def getRoutes (dumps : RouteDumps) (q : RouteQuery) (ifNames : Nat → Option String) :
    Except String RouteDump := do
  let dumped ← dumpedRoutes dumps q ifNames
  let routes := dumped.mergeSort DumpedRoute.le
  return { routes, tableNames := tableNames routes }

/-! ### The order of the list -/

namespace DumpedRoute

theorem le_iff (a b : DumpedRoute) :
    a.le b = true ↔ a.table < b.table ∨ (a.table = b.table ∧
      (b.prefixLen < a.prefixLen ∨ (b.prefixLen = a.prefixLen ∧ a.priority ≤ b.priority))) := by
  simp only [le, cmp, Ordering.isLE_then_iff_and, Nat.isLE_compare, Ordering.then_eq_lt,
    Nat.compare_eq_lt, Nat.compare_eq_eq]
  omega

theorem le_trans (a b c : DumpedRoute) (hab : a.le b = true) (hbc : b.le c = true) :
    a.le c = true := by
  rw [le_iff] at hab hbc ⊢
  omega

theorem le_total (a b : DumpedRoute) : (a.le b || b.le a) = true := by
  rw [Bool.or_eq_true, le_iff, le_iff]
  omega

end DumpedRoute

/-- The report: the routes that are asked for, sorted. -/
theorem getRoutes_eq {dumps : RouteDumps} {q : RouteQuery} {ifNames : Nat → Option String}
    {reported : RouteDump} (h : getRoutes dumps q ifNames = .ok reported) :
    ∃ asked, dumpedRoutes dumps q ifNames = .ok asked ∧
      reported.routes = asked.mergeSort DumpedRoute.le ∧
      reported.tableNames = tableNames reported.routes := by
  unfold getRoutes at h
  cases hdump : dumpedRoutes dumps q ifNames with
  | error e =>
    rw [hdump] at h
    cases h
  | ok asked =>
    rw [hdump] at h
    obtain rfl := Except.ok.inj h
    exact ⟨asked, rfl, rfl, rfl⟩

/-! ### Forwarding -/

/-- The destination of a route holds the address. -/
def DumpedRoute.covers (r : DumpedRoute) (ip : IpAddr) : Bool :=
  match r.destination.bind WirePrefix.ip, ip with
  | some (.v4 d), .v4 a => AddrSelector.contains ⟨d, r.prefixLen⟩ a
  | some (.v6 d), .v6 a => AddrSelector.contains ⟨d, r.prefixLen⟩ a
  | none, ip => r.isDefault && r.family == ip.family
  | _, _ => false

/-- Between two routes of a table that cover an address: the longer prefix, then the lower
    metric. -/
def DumpedRoute.Better (a b : DumpedRoute) : Prop :=
  b.prefixLen < a.prefixLen ∨ (b.prefixLen = a.prefixLen ∧ a.priority < b.priority)

/-- The route of a table that forwards to the address, among these of the kernel: no other
    that covers the address is better, and none is as good and earlier. -/
def Selects (routes : List DumpedRoute) (table : Nat) (ip : IpAddr) (r : DumpedRoute) : Prop :=
  ∃ before after, routes = before ++ r :: after ∧ r.table = table ∧ r.covers ip = true ∧
    (∀ b ∈ before, b.table = table → b.covers ip = true → r.Better b) ∧
    ∀ b ∈ after, b.table = table → b.covers ip = true → ¬b.Better r

/-- The condition of a search for the route of a table. -/
def decides (table : Nat) (ip : IpAddr) (r : DumpedRoute) : Bool := r.table == table && r.covers ip

/-- Within a table the order of the list is that of the kernel. -/
theorem chosen_iff_selects {routes : List DumpedRoute} {table : Nat} {ip : IpAddr}
    {r : DumpedRoute} :
    Sorted.Chosen DumpedRoute.le (decides table ip) routes r ↔ Selects routes table ip r := by
  unfold Sorted.Chosen Selects
  refine exists_congr fun before => exists_congr fun after => ?_
  simp only [decides, Bool.and_eq_true, beq_iff_eq, ← Bool.not_eq_true, DumpedRoute.le_iff,
    DumpedRoute.Better]
  constructor
  · rintro ⟨hl, ⟨rfl, hcovers⟩, hbefore, hafter⟩
    refine ⟨hl, rfl, hcovers, ?_, ?_⟩
    · intro b hb htable hc
      have := hbefore b hb ⟨htable, hc⟩
      omega
    · intro b hb htable hc
      have := hafter b hb ⟨htable, hc⟩
      omega
  · rintro ⟨hl, rfl, hcovers, hbefore, hafter⟩
    refine ⟨hl, ⟨rfl, hcovers⟩, ?_, ?_⟩
    · intro b hb h
      have := hbefore b hb h.1 h.2
      omega
    · intro b hb h
      have := hafter b hb h.1 h.2
      omega

/-- **The list is a forwarding table.**  Whatever the kernel dumps and whatever is asked for,
    the first route of a table that covers an address is the one that table forwards with. -/
theorem first_covering_iff {dumps : RouteDumps} {q : RouteQuery} {ifNames : Nat → Option String}
    {reported : RouteDump} (h : getRoutes dumps q ifNames = .ok reported) :
    ∃ asked, dumpedRoutes dumps q ifNames = .ok asked ∧ reported.routes.Perm asked ∧
      ∀ table ip r, reported.routes.find? (decides table ip) = some r ↔
        Selects asked table ip r := by
  obtain ⟨asked, hasked, hroutes, -⟩ := getRoutes_eq h
  refine ⟨asked, hasked, ?_, ?_⟩
  · rw [hroutes]
    exact List.mergeSort_perm asked _
  · intro table ip r
    rw [hroutes, ← chosen_iff_selects]
    exact Sorted.find?_mergeSort_eq_some_iff DumpedRoute.le_trans DumpedRoute.le_total

/-- A route of the main table. -/
def mainRoute (destination : Option (BitVec 32)) (prefixLen oif : Nat) : RouteMessage where
  header := { addressFamily := .inet, destinationPrefixLength := prefixLen, table := 254 }
  attributes :=
    (destination.map (fun d => RouteAttribute.destination (.inet d))).toList ++ [.oif oif]

/-- A default route, `10.0.0.0/8` and `10.1.0.0/16`, the most specific last. -/
def nestedRoutes : RouteDumps
  | .v4 =>
    .ok [mainRoute none 0 1, mainRoute (some 0x0a000000) 8 2, mainRoute (some 0x0a010000) 16 3]
  | .v6 => .ok []

/-- `10.1.2.3` goes out on interface 3. -/
theorem first_covering_iff_nested :
    ∃ reported, getRoutes nestedRoutes {} (fun _ => none) = .ok reported ∧
      reported.routes.find? (decides 254 (.v4 0x0a010203)) =
        some (routeToProto (mainRoute (some 0x0a010000) 16 3) (fun _ => none)) := by
  let names : Nat → Option String := fun _ => none
  let first := routeToProto (mainRoute none 0 1) names
  let second := routeToProto (mainRoute (some 0x0a000000) 8 2) names
  have hok : ∃ reported, getRoutes nestedRoutes {} names = .ok reported := ⟨_, rfl⟩
  obtain ⟨reported, hreported⟩ := hok
  refine ⟨reported, hreported, ?_⟩
  obtain ⟨asked, hasked, -, hfirst⟩ := first_covering_iff hreported
  obtain rfl := Except.ok.inj hasked
  rw [hfirst]
  refine ⟨[first, second], [], by decide +kernel, by decide +kernel, by decide +kernel, ?_, by simp⟩
  intro b hb _ _
  left
  revert b
  decide +kernel

/-! ### Names -/

/-- A hop has the name of its interface, or none if the index is not known. -/
def DumpedHop.Named (ifNames : Nat → Option String) (hop : DumpedHop) : Prop :=
  hop.outInterfaceName = (ifNames hop.outInterfaceIndex).getD ""

theorem applyAttribute_named {ifNames : Nat → Option String} {f : RouteFields}
    (h : ∀ hop ∈ f.multipath, hop.Named ifNames) (attr : RouteAttribute) :
    ∀ hop ∈ (f.applyAttribute ifNames attr).multipath, hop.Named ifNames := by
  cases attr with
  | multiPath hops =>
    intro hop hhop
    rcases List.mem_append.mp hhop with hold | hnew
    · exact h hop hold
    · obtain ⟨kernelHop, -, rfl⟩ := List.mem_map.mp hnew
      rfl
  | cacheInfo expires =>
    simp only [RouteFields.applyAttribute]
    split <;> exact h
  | _ => exact h

theorem foldl_applyAttribute_named {ifNames : Nat → Option String} (attrs : List RouteAttribute)
    {f : RouteFields} (h : ∀ hop ∈ f.multipath, hop.Named ifNames) :
    ∀ hop ∈ (attrs.foldl (RouteFields.applyAttribute ifNames) f).multipath, hop.Named ifNames := by
  induction attrs generalizing f with
  | nil => exact h
  | cons attr attrs ih => exact ih (applyAttribute_named h attr)

/-- Every hop of a route has the name of its interface. -/
theorem routeToProto_named (msg : RouteMessage) (ifNames : Nat → Option String) :
    ∀ hop ∈ (routeToProto msg ifNames).nextHops, hop.Named ifNames := by
  have hmultipath : ∀ hop ∈ (routeFields msg ifNames).multipath, hop.Named ifNames :=
    foldl_applyAttribute_named msg.attributes nofun
  intro hop hhop
  simp only [routeToProto] at hhop
  split at hhop
  · obtain rfl := List.mem_singleton.mp hhop
    rfl
  · exact hmultipath hop hhop

/-- So has every hop of the report. -/
theorem getRoutes_named {dumps : RouteDumps} {q : RouteQuery} {ifNames : Nat → Option String}
    {reported : RouteDump} (h : getRoutes dumps q ifNames = .ok reported) :
    ∀ r ∈ reported.routes, ∀ hop ∈ r.nextHops, hop.Named ifNames := by
  obtain ⟨asked, hasked, hroutes, -⟩ := getRoutes_eq h
  intro r hr
  rw [hroutes, List.mem_mergeSort] at hr
  unfold dumpedRoutes at hasked
  cases hdump : (versions q.family).mapM dumps with
  | error e =>
    rw [hdump] at hasked
    cases hasked
  | ok dumped =>
    rw [hdump] at hasked
    obtain rfl := Except.ok.inj hasked
    obtain ⟨msg, _, rfl⟩ := List.mem_map.mp (List.mem_filter.mp hr).1
    exact routeToProto_named msg ifNames

end Netdiag.Collect
