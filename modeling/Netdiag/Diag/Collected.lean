import Netdiag.Collect.Interfaces
import Netdiag.Collect.Lookup
import Netdiag.Collect.Neighbors
import Netdiag.Diag.State

namespace Netdiag.Diag

/-!
# Diagnosis — the state over the collectors

`gather` of `daemon/src/diag/mod.rs` over the collectors themselves and not over what they might
return: a `Device` holds the answers of the kernel to every dump and lookup.

* `Device.kernel` — what the collectors make of the answers.
* `Bound` — the probes of a family leave through the interface the lookup of the family named.
* `gather_collected` — every state that is gathered from a device has distinct interface indexes,
  names its hops after its interfaces and binds its probes to where the kernel sends them.
-/

open Netdiag.Collect (DumpedInterface DumpedRoute DumpedHop LinkDumps RouteDumps RuleDump
  NeighborDumps LookupKernel Files getInterfaces interfaceNames getRoutes getRules getNeighbors
  getSockets)
open Netdiag.Probe

/-! ### The device -/

/-- The answers of the kernel, and the files that can be read. -/
structure Device where
  links : LinkDumps
  routes : RouteDumps
  rules : RuleDump
  neighbors : NeighborDumps
  sockets : Collect.Kernel
  lookup : LookupKernel
  files : Files

namespace Device

/-- `links::get_interfaces(handle, true, true)`. -/
def interfaces (d : Device) : Except String (List DumpedInterface) :=
  getInterfaces d.links d.files true true

/-- `collect::interface_names(&interfaces)`. -/
def ifNames (d : Device) : Nat → Option String :=
  match d.interfaces with
  | .ok interfaces => interfaceNames interfaces
  | .error _ => fun _ => none

/-- The socket filter of a diagnosis. -/
def socketFilter : Collect.SocketFilter := { includeTcpInfo := true }

/-- What the collectors return on this device. -/
def kernel (d : Device) : Kernel where
  interfaces := d.interfaces.map (fun l => l.map DumpedInterface.toInterface)
  routes := (getRoutes d.routes {} d.ifNames).map (fun dump =>
    dump.routes.map DumpedRoute.toRoute)
  rules := (getRules d.rules .unspecified none).map (fun l => l.map (fun r => r.rule.toRoutingRule))
  neighbors := (getNeighbors d.neighbors {} d.ifNames).map (fun l =>
    l.map Watch.WatchedNeighbor.toNeighbor)
  sockets :=
    match getSockets socketFilter d.ifNames d.sockets with
    | .ok dump => .ok (dump.sockets.map Collect.InetSocket.toSocket, dump.summary.toSocketSummary)
    | .error e => .error e.message
  routeLookup := fun destination uid fwmark =>
    (Collect.routeLookup d.lookup { destination, uid, fwmark } d.ifNames).toRouteLookup

end Device

/-! ### What is gathered -/

/-- The name of an interface among these, the empty one for an index they do not have. -/
def nameOf (interfaces : List Interface) (index : Nat) : String :=
  ((interfaces.find? (fun i => i.index == index)).map Interface.name).getD ""

/-- A hop has the name its interface has in the list. -/
def HopNamed (interfaces : List Interface) (hop : NextHop) : Prop :=
  hop.outInterfaceName = nameOf interfaces hop.outInterfaceIndex

/-- The probes of a family, beside the lookup of the family: they carry the mark it was asked
    with, and the device is the interface it named. -/
structure Bound (interfaces : List Interface) (lookup : RouteLookup) (egress : Option Interface)
    (ctx : ProbeContext) : Prop where
  mark : lookup.fwmark = ctx.mark.getD 0
  known : ∀ iface, egress = some iface → iface ∈ interfaces
  hop : ∀ iface, egress = some iface → ∃ hop, firstHop lookup = some hop ∧
    hop.outInterfaceIndex = iface.index ∧ hop.outInterfaceName = iface.name
  device : ctx.bindDevice = (egress.map Interface.name).filter (fun name => !name.isEmpty)

/-- The context of the probes of a family. -/
def egressContext (base : ProbeContext) (egress : Option Interface) : ProbeContext :=
  match egress with
  | some iface => base.onDevice iface.name
  | none => base

/-- What a successful `gather` puts into the state. -/
theorem gather_fields {kernel : Kernel} {request : DiagnoseRequest} {state : DiagState}
    (h : gather kernel request = .ok state) :
    kernel.interfaces = .ok state.interfaces ∧ kernel.routes = .ok state.routes ∧
      ∃ (base : ProbeContext) (uid : Option Nat), base.bindDevice = none ∧
        state.lookupV4 = kernel.routeLookup defaultV4Endpoint uid base.mark ∧
        state.lookupV6 = kernel.routeLookup defaultV6Endpoint uid base.mark ∧
        state.egressV4 = egressInterface state.lookupV4 state.interfaces ∧
        state.egressV6 = egressInterface state.lookupV6 state.interfaces ∧
        state.probeCtxV4 = egressContext base state.egressV4 ∧
        state.probeCtxV6 = egressContext base state.egressV6 := by
  unfold gather at h
  cases hi : kernel.interfaces with
  | error e => simp [hi, bind, Except.bind] at h
  | ok interfaces =>
  cases hr : kernel.routes with
  | error e => simp [hi, hr, bind, Except.bind] at h
  | ok routes =>
  cases hu : kernel.rules with
  | error e => simp [hi, hr, hu, bind, Except.bind] at h
  | ok rules =>
  cases hn : kernel.neighbors with
  | error e => simp [hi, hr, hu, hn, bind, Except.bind] at h
  | ok neighbors =>
    simp only [hi, hr, hu, hn, bind, Except.bind, pure, Except.pure, Except.ok.injEq] at h
    subst h
    refine ⟨rfl, rfl, _, _, ?_, rfl, rfl, rfl, rfl, rfl, rfl⟩
    -- neither the timeout nor the mark binds a device
    unfold ProbeContext.pinnedToNetId
    split <;> rfl

/-! ### Names -/

theorem nameOf_map {dumped : List DumpedInterface}
    (hsorted : dumped.Pairwise (fun a b => a.index < b.index)) (index : Nat) :
    nameOf (dumped.map DumpedInterface.toInterface) index =
      (interfaceNames dumped index).getD "" := by
  rw [nameOf, Collect.interfaceNames_eq hsorted, List.find?_map, Option.map_map]
  rfl

/-- The interfaces of a device, and the names the other collectors are given. -/
theorem Device.interfaces_cases {d : Device} {interfaces : List Interface}
    (h : d.kernel.interfaces = .ok interfaces) :
    ∃ dumped : List DumpedInterface, interfaces = dumped.map DumpedInterface.toInterface ∧
      dumped.Pairwise (fun a b => a.index < b.index) ∧ d.ifNames = interfaceNames dumped := by
  have hmap : d.interfaces.map (fun l => l.map DumpedInterface.toInterface) = .ok interfaces := h
  cases hdump : d.interfaces with
  | error e =>
    rw [hdump] at hmap
    cases hmap
  | ok dumped =>
    rw [hdump] at hmap
    refine ⟨dumped, (Except.ok.inj hmap).symm, Collect.getInterfaces_sorted hdump, ?_⟩
    rw [Device.ifNames, hdump]

/-- The hops of a converted route are those of the route. -/
theorem mem_toRoute {r : DumpedRoute} {hop : NextHop} (h : hop ∈ r.toRoute.nextHops) :
    ∃ dumped ∈ r.nextHops, dumped.toNextHop = hop := List.mem_map.mp h

/-- Every hop of a lookup has the name of its interface. -/
theorem routeLookup_named (kernel : LookupKernel) (q : Collect.Question)
    (ifNames : Nat → Option String) {r : DumpedRoute}
    (h : (Collect.routeLookup kernel q ifNames).route = some r) :
    ∀ hop ∈ r.nextHops, hop.Named ifNames := by
  obtain ⟨msg, -, rfl⟩ := Collect.routeLookup_route h
  exact Collect.routeToProto_named msg ifNames

/-- The interface a lookup leaves through is among the interfaces, with the name of the hop. -/
theorem egressInterface_cases {lookup : RouteLookup} {interfaces : List Interface}
    {iface : Interface} (h : egressInterface lookup interfaces = some iface)
    (hnamed : ∀ hop, firstHop lookup = some hop → HopNamed interfaces hop) :
    iface ∈ interfaces ∧ ∃ hop, firstHop lookup = some hop ∧
      hop.outInterfaceIndex = iface.index ∧ hop.outInterfaceName = iface.name := by
  unfold egressInterface at h
  obtain ⟨hop, hhop, hfind⟩ := Option.bind_eq_some_iff.mp h
  refine ⟨List.mem_of_find?_eq_some hfind, hop, hhop, ?_, ?_⟩
  · have hindex := List.find?_some hfind
    exact (beq_iff_eq.mp hindex).symm
  · rw [hnamed hop hhop, nameOf, hfind]
    rfl

/-- The device of the probes. -/
theorem egressContext_bindDevice {base : ProbeContext} (hbase : base.bindDevice = none)
    (egress : Option Interface) : (egressContext base egress).bindDevice =
      (egress.map Interface.name).filter (fun name => !name.isEmpty) := by
  cases egress with
  | none => exact hbase
  | some iface =>
    show (base.onDevice iface.name).bindDevice = _
    unfold ProbeContext.onDevice
    rw [Option.map_some, Option.filter_some]
    cases iface.name.isEmpty with
    | true => exact hbase
    | false => rfl

theorem egressContext_mark (base : ProbeContext) (egress : Option Interface) :
    (egressContext base egress).mark = base.mark := by
  cases egress with
  | none => rfl
  | some iface =>
    show (base.onDevice iface.name).mark = _
    unfold ProbeContext.onDevice
    split <;> rfl

/-- The lookup of a family on a device binds its probes. -/
theorem Device.bound {d : Device} {interfaces : List Interface} {base : ProbeContext}
    (h : d.kernel.interfaces = .ok interfaces) (hbase : base.bindDevice = none)
    (destination : IpAddr) (uid : Option Nat) :
    let lookup := d.kernel.routeLookup destination uid base.mark
    let egress := egressInterface lookup interfaces
    Bound interfaces lookup egress (egressContext base egress) := by
  intro lookup egress
  obtain ⟨dumped, rfl, hsorted, hnames⟩ := Device.interfaces_cases h
  -- The hop of the lookup is named from the same table.
  have hnamed : ∀ hop, firstHop lookup = some hop →
      HopNamed (dumped.map DumpedInterface.toInterface) hop := by
    intro hop hhop
    obtain ⟨route, hroute, hhead⟩ := Option.bind_eq_some_iff.mp hhop
    obtain ⟨r, hr, rfl⟩ := Option.map_eq_some_iff.mp hroute
    obtain ⟨dumpedHop, hmem, rfl⟩ := mem_toRoute (List.mem_of_head? hhead)
    rw [HopNamed, nameOf_map hsorted, ← hnames]
    exact routeLookup_named d.lookup _ d.ifNames hr dumpedHop hmem
  refine ⟨?_, ?_, ?_, egressContext_bindDevice hbase egress⟩
  · rw [egressContext_mark]
    show (Collect.routeLookup d.lookup _ d.ifNames).fwmark = _
    unfold Collect.routeLookup
    split <;> rfl
  · exact fun iface hiface => (egressInterface_cases hiface hnamed).1
  · exact fun iface hiface => (egressInterface_cases hiface hnamed).2

/-- The hops of the routes that are reported on a device. -/
theorem Device.routes_named {d : Device} {interfaces : List Interface} {routes : List Route}
    (h : d.kernel.interfaces = .ok interfaces) (hroutes : d.kernel.routes = .ok routes) :
    ∀ r ∈ routes, ∀ hop ∈ r.nextHops, HopNamed interfaces hop := by
  obtain ⟨dumped, rfl, hsorted, hnames⟩ := Device.interfaces_cases h
  have hmap : (getRoutes d.routes {} d.ifNames).map (fun dump =>
      dump.routes.map DumpedRoute.toRoute) = .ok routes := hroutes
  cases hdump : getRoutes d.routes {} d.ifNames with
  | error e =>
    rw [hdump] at hmap
    cases hmap
  | ok reported =>
    rw [hdump] at hmap
    obtain rfl := Except.ok.inj hmap
    intro r hr hop hhop
    obtain ⟨dumpedRoute, hdumped, rfl⟩ := List.mem_map.mp hr
    obtain ⟨dumpedHop, hmem, rfl⟩ := mem_toRoute hhop
    rw [HopNamed, nameOf_map hsorted, ← hnames]
    exact Collect.getRoutes_named hdump dumpedRoute hdumped dumpedHop hmem

/-- **A gathered state is consistent.**  Whatever the kernel answers, a state that is gathered
    has interfaces with distinct indexes, hops with the names of these interfaces, and for
    each family probes that carry the mark of the lookup and leave through the interface it
    named. -/
theorem gather_collected {d : Device} {request : DiagnoseRequest} {state : DiagState}
    (h : gather d.kernel request = .ok state) :
    (∃ g : Gathered, g.toDiagState = state) ∧
      (∀ r ∈ state.routes, ∀ hop ∈ r.nextHops, HopNamed state.interfaces hop) ∧
      Bound state.interfaces state.lookupV4 state.egressV4 state.probeCtxV4 ∧
      Bound state.interfaces state.lookupV6 state.egressV6 state.probeCtxV6 := by
  obtain ⟨hinterfaces, hroutes, base, uid, hbase, hl4, hl6, he4, he6, hc4, hc6⟩ := gather_fields h
  refine ⟨?_, Device.routes_named hinterfaces hroutes, ?_, ?_⟩
  · obtain ⟨dumped, hdumped, hsorted, -⟩ := Device.interfaces_cases hinterfaces
    apply gather_ok h
    have hindexes : (dumped.map DumpedInterface.index).Nodup :=
      List.pairwise_map.mpr (hsorted.imp (fun hlt => Nat.ne_of_lt hlt))
    rw [hdumped, List.map_map]
    exact hindexes
  · rw [hc4, he4, hl4]
    exact Device.bound hinterfaces hbase defaultV4Endpoint uid
  · rw [hc6, he6, hl6]
    exact Device.bound hinterfaces hbase defaultV6Endpoint uid

/-- A device with one interface, whose default route every lookup finds. -/
def phone : Device where
  links :=
    { links := .ok [⟨3, .rawip, 0x41, [.ifName "rmnet_data0"]⟩]
      addresses := .ok [⟨3, 32, .universe, 0, [.local (.v4 0x0a000001)]⟩] }
  routes := fun v => match v with
    | .v4 => .ok [Collect.mainRoute none 0 3]
    | .v6 => .ok []
  rules := { v4 := .ok [], v6 := .ok [] }
  neighbors := fun _ => .ok []
  sockets := { opened := .ok (), dump := fun _ => .ok [] }
  lookup := fun _ => .ok [.other, .newRoute (Collect.mainRoute none 0 3)]
  files := fun _ => none

/-- The lookup of the phone has a route, and its probes are bound by it. -/
theorem gather_collected_phone :
    ∃ state, gather phone.kernel {} = .ok state ∧ state.lookupV4.route.isSome ∧
      Bound state.interfaces state.lookupV4 state.egressV4 state.probeCtxV4 := by
  have hok : ∃ state, gather phone.kernel {} = .ok state := ⟨_, rfl⟩
  obtain ⟨state, hstate⟩ := hok
  obtain ⟨-, -, hbound, -⟩ := gather_collected hstate
  refine ⟨state, hstate, ?_, hbound⟩
  obtain rfl := Except.ok.inj hstate
  rfl

end Netdiag.Diag
