import Netdiag.Collect.FirewallState
import Netdiag.Collect.Procnet
import Netdiag.Collect.Resolver
import Netdiag.Collect.Summary
import Netdiag.Diag.Collected

namespace Netdiag.Daemon

/-!
# Daemon — snapshots

`collect_snapshot` and `collect_qdiscs` of `daemon/src/snapshot.rs`: every layer of a device in
one report.

* `collectQdiscs`, `detectClat` — the queueing disciplines and 464XLAT.
* `collectSnapshot` — the sections in the order of the source; only interfaces and routes can
  fail it, any other section that fails leaves a warning.
* `collect_snapshot_complete` — there are no warnings exactly when every section that is asked
  for is whole, and every row is named after the interfaces of the snapshot.
* `gather_of_snapshot` — a diagnosis starts from what a snapshot without warnings shows.
-/

open Netdiag.Collect (DumpedInterface DumpedRoute DumpedRule InetSocket InetSummary FirewallSources
  FirewallState GlobalSysctls NamespaceFiles NetworkNamespace ProtocolCounters ResolverState
  EveryRow getInterfaces interfaceNames getRoutes getRules getNeighbors getSockets)
open Netdiag.Diag (Device phone)
open Netdiag.Watch (WatchedNeighbor)

/-! ### Queueing disciplines -/

/-- `TcStats2`. -/
inductive TcStats2
  | basic (bytes packets : Nat)
  | queue (drops overlimits requeues backlog qlen : Nat)
  | other
  deriving DecidableEq, Repr

/-- `TcAttribute`. -/
inductive TcAttribute
  | kind (name : String)
  | stats2 (stats : List TcStats2)
  | stats (bytes packets drops overlimits : Nat)
  | other
  deriving DecidableEq, Repr

/-- A message of the `RTM_GETQDISC` dump. -/
structure TcMessage where
  index : BitVec 32
  handle : Nat
  parent : Nat
  attributes : List TcAttribute
  deriving DecidableEq, Repr

/-- `Qdisc`. -/
structure Qdisc where
  interfaceIndex : Nat := 0
  interfaceName : String := ""
  kind : String := ""
  handle : Nat := 0
  parent : Nat := 0
  bytesSent : Nat := 0
  packetsSent : Nat := 0
  drops : Nat := 0
  overlimits : Nat := 0
  requeues : Nat := 0
  backlogBytes : Nat := 0
  backlogPackets : Nat := 0
  deriving DecidableEq, Repr

namespace Qdisc

/-- One entry of the newer statistics. -/
def withStats2 (q : Qdisc) : TcStats2 → Qdisc
  | .basic bytes packets => { q with bytesSent := bytes, packetsSent := packets }
  | .queue drops overlimits requeues backlog qlen =>
    { q with drops, overlimits, requeues, backlogBytes := backlog, backlogPackets := qlen }
  | .other => q

/-- The older statistics fill in what is still zero. -/
def withStats (q : Qdisc) (bytes packets drops overlimits : Nat) : Qdisc :=
  -- The packets go with the bytes and the overlimits with the drops, zero or not.
  let q := if q.bytesSent = 0 then { q with bytesSent := bytes, packetsSent := packets } else q
  if q.drops = 0 then { q with drops, overlimits } else q

/-- The loop over the attributes. -/
def applyAttribute (q : Qdisc) : TcAttribute → Qdisc
  | .kind name => { q with kind := name }
  | .stats2 stats => stats.foldl withStats2 q
  | .stats bytes packets drops overlimits => q.withStats bytes packets drops overlimits
  | .other => q

end Qdisc

/-- One message of the dump. -/
def qdiscToProto (msg : TcMessage) (ifNames : Nat → Option String) : Qdisc :=
  msg.attributes.foldl Qdisc.applyAttribute
    { interfaceIndex := msg.index.toNat
      interfaceName := (ifNames msg.index.toNat).getD ""
      handle := msg.handle
      parent := msg.parent }

/-- `collect_qdiscs`: a discipline without a kind is passed over. -/
def collectQdiscs (dump : Except String (List TcMessage)) (ifNames : Nat → Option String) :
    Except String (List Qdisc) := do
  let msgs ← dump
  return (msgs.map (qdiscToProto · ifNames)).filter (fun q => !q.kind.isEmpty)

namespace Qdisc

/-- The same link. -/
def SameLink (q q' : Qdisc) : Prop :=
  q'.interfaceIndex = q.interfaceIndex ∧ q'.interfaceName = q.interfaceName

/-- Statistics do not move a discipline to another link. -/
theorem withStats_sameLink (q : Qdisc) (bytes packets drops overlimits : Nat) :
    q.SameLink (q.withStats bytes packets drops overlimits) := by
  unfold withStats
  dsimp only
  split_ifs <;> exact ⟨rfl, rfl⟩

/-- Nor do the newer ones. -/
theorem foldl_withStats2_sameLink (stats : List TcStats2) (q : Qdisc) :
    q.SameLink (stats.foldl withStats2 q) := by
  induction stats generalizing q with
  | nil => exact ⟨rfl, rfl⟩
  | cons stat stats ih =>
    obtain ⟨hindex, hname⟩ := ih (q.withStats2 stat)
    rw [SameLink, List.foldl_cons, hindex, hname]
    cases stat <;> exact ⟨rfl, rfl⟩

/-- Nor does any attribute. -/
theorem applyAttribute_sameLink (q : Qdisc) (attr : TcAttribute) :
    q.SameLink (q.applyAttribute attr) := by
  cases attr with
  | kind name => exact ⟨rfl, rfl⟩
  | stats2 stats => exact foldl_withStats2_sameLink stats q
  | stats bytes packets drops overlimits =>
    exact q.withStats_sameLink bytes packets drops overlimits
  | other => exact ⟨rfl, rfl⟩

end Qdisc

/-- A discipline has the name of its interface, or none if the index is not known. -/
theorem qdiscToProto_named (msg : TcMessage) (ifNames : Nat → Option String) :
    (qdiscToProto msg ifNames).interfaceName =
      (ifNames (qdiscToProto msg ifNames).interfaceIndex).getD "" := by
  unfold qdiscToProto
  apply List.foldlRecOn (motive := fun q : Qdisc =>
    q.interfaceName = (ifNames q.interfaceIndex).getD "") msg.attributes Qdisc.applyAttribute rfl
  intro q hq attr _
  obtain ⟨hindex, hname⟩ := q.applyAttribute_sameLink attr
  rw [hindex, hname, hq]

/-- Every discipline has the name of its interface. -/
theorem collectQdiscs_named {dump : Except String (List TcMessage)} {ifNames : Nat → Option String}
    {reported : List Qdisc} (h : collectQdiscs dump ifNames = .ok reported) :
    ∀ q ∈ reported, q.interfaceName = (ifNames q.interfaceIndex).getD "" := by
  cases dump with
  | error e => cases h
  | ok msgs =>
    obtain rfl := Except.ok.inj h
    intro q hq
    obtain ⟨msg, -, rfl⟩ := List.mem_map.mp (List.mem_filter.mp hq).1
    exact qdiscToProto_named msg ifNames

/-! ### 464XLAT -/

/-- `Clat464State`, without the prefix that is never set. -/
structure ClatState extends Clat464State where
  baseInterface : String := ""
  clatIpv4Address : Option IpAddress := none
  clatIpv6Address : Option IpAddress := none
  detectionMethod : String := ""
  deriving DecidableEq, Repr

/-- The addresses of an interface that can be read. -/
def addressesOf (iface : DumpedInterface) : List IpAddr :=
  iface.addresses.filterMap (fun a => a.ipPrefix.bind WirePrefix.ip)

/-- `detect_clat`. -/
def detectClat (interfaces : List DumpedInterface) : ClatState :=
  match interfaces.find? (fun i => i.kind == .clat || i.name.startsWith "v4-") with
  | none => { active := false, detectionMethod := "no v4-* interface present" }
  | some clat =>
    { active := (clat.flags.map (fun f => f.up && f.running)).getD false
      clatInterface := clat.name
      baseInterface := String.ofList ((clat.name.toList.dropPrefix? "v4-".toList).getD [])
      clatIpv4Address := ((addressesOf clat).find? IpAddr.isIpv4).map Watch.fromIp
      clatIpv6Address := ((addressesOf clat).find? IpAddr.isIpv6).map Watch.fromIp
      detectionMethod := s!"clat interface {clat.name} present" }

/-- The diagnosis detects the same. -/
theorem detectClat_map (interfaces : List DumpedInterface) :
    (detectClat interfaces).toClat464State =
      Diag.detectClat (interfaces.map DumpedInterface.toInterface) := by
  unfold detectClat Diag.detectClat
  rw [List.find?_map]
  have hsame : (fun i : Interface => i.kind == .clat || i.name.startsWith "v4-") ∘
      DumpedInterface.toInterface =
        (fun i : DumpedInterface => i.kind == .clat || i.name.startsWith "v4-") := rfl
  rw [hsame]
  cases interfaces.find? (fun i => i.kind == .clat || i.name.startsWith "v4-") with
  | none => rfl
  | some clat =>
    show Clat464State.mk _ _ = Clat464State.mk _ _
    congr 1
    show _ = (Option.map _ (Option.map _ clat.flags)).getD false
    rw [Option.map_map]
    rfl

/-! ### The snapshot -/

/-- `GetSnapshotRequest`. -/
structure GetSnapshotRequest where
  includeSockets : Bool := false
  includeSocketTcpInfo : Bool := false
  includeNeighbors : Bool := false
  includeFirewall : Bool := false
  includeQdiscs : Bool := false
  includeCounters : Bool := false
  includeSysctls : Bool := false
  androidState : Option AndroidNetworkState := none

/-- `Snapshot`, without its times and the release of the kernel. -/
structure Snapshot where
  interfaces : List DumpedInterface
  routes : List DumpedRoute
  tableNames : Nat → Option String
  rules : List DumpedRule
  neighbors : List WatchedNeighbor
  sockets : List InetSocket
  socketSummary : Option InetSummary
  sysctls : Option GlobalSysctls
  counters : Option ProtocolCounters
  firewall : Option FirewallState
  qdiscs : List Qdisc
  namespaces : List NetworkNamespace
  resolver : ResolverState
  clat : ClatState
  androidState : Option AndroidNetworkState
  collectionWarnings : List String

/-- What a snapshot asks besides the collectors of a diagnosis. -/
structure Surroundings where
  qdiscs : Except String (List TcMessage)
  firewall : FirewallSources
  namespaces : NamespaceFiles

/-- `unwrap_or_else`: a section that failed is empty, and its warning is kept. -/
def orWarn {α : Type} (wanted : Bool) (what : String) (result : Except String (List α)) :
    List α × List String :=
  if wanted then
    match result with
    | .ok rows => (rows, [])
    | .error e => ([], [s!"{what} unavailable: {e}"])
  else ([], [])

/-- The warning for a list of sockets that was cut. -/
def truncatedWarning : String := "the socket list was truncated at the daemon's row limit"

/-- The socket filter of a snapshot. -/
def socketFilter (request : GetSnapshotRequest) : Collect.SocketFilter :=
  { includeTcpInfo := request.includeSocketTcpInfo }

/-- The sockets, their summary and the warnings about them. -/
def socketSection (d : Device) (request : GetSnapshotRequest) (ifNames : Nat → Option String) :
    List InetSocket × Option InetSummary × List String :=
  if request.includeSockets then
    match getSockets (socketFilter request) ifNames d.sockets with
    | .ok dump =>
      (dump.sockets, some dump.summary, if dump.truncated then [truncatedWarning] else [])
    | .error e => ([], none, [s!"socket diagnostics unavailable: {e.message}"])
  else ([], none, [])

/-- What follows the two dumps that can fail. -/
def snapshotOf (d : Device) (around : Surroundings) (request : GetSnapshotRequest)
    (interfaces : List DumpedInterface) (routeDump : Collect.RouteDump) : Snapshot :=
  let ifNames := interfaceNames interfaces
  let rules := orWarn true "routing rules" (getRules d.rules .unspecified none)
  let neighbors := orWarn request.includeNeighbors "neighbour table"
    (getNeighbors d.neighbors {} ifNames)
  let sockets := socketSection d request ifNames
  let qdiscs := orWarn request.includeQdiscs "qdisc dump" (collectQdiscs around.qdiscs ifNames)
  { interfaces
    routes := routeDump.routes
    tableNames := routeDump.tableNames
    rules := rules.1
    neighbors := neighbors.1
    sockets := sockets.1
    socketSummary := sockets.2.1
    sysctls := if request.includeSysctls then some (Collect.readGlobalSysctls d.files) else none
    counters := if request.includeCounters then some (Collect.readCounters d.files) else none
    firewall :=
      if request.includeFirewall then some (Collect.collectFirewall around.firewall true) else none
    qdiscs := qdiscs.1
    namespaces := Collect.readNamespaces around.namespaces
    resolver := Collect.readResolverState d.files
    clat := detectClat interfaces
    androidState := request.androidState
    -- In the order in which the sections are collected.
    collectionWarnings := rules.2 ++ neighbors.2 ++ sockets.2.2 ++ qdiscs.2 }

/-- `collect_snapshot`. -/
def collectSnapshot (d : Device) (around : Surroundings) (request : GetSnapshotRequest) :
    Except String Snapshot := do
  let interfaces ← getInterfaces d.links d.files true request.includeSysctls
  let routeDump ← getRoutes d.routes {} (interfaceNames interfaces)
  return snapshotOf d around request interfaces routeDump

section Snapshots

variable {d : Device} {around : Surroundings} {request : GetSnapshotRequest} {s : Snapshot}

/-- A snapshot fails only with its interfaces and its routes. -/
theorem collectSnapshot_ok_iff : collectSnapshot d around request = .ok s ↔
    ∃ interfaces dump,
      getInterfaces d.links d.files true request.includeSysctls = .ok interfaces ∧
        getRoutes d.routes {} (interfaceNames interfaces) = .ok dump ∧
          s = snapshotOf d around request interfaces dump := by
  constructor
  · intro h
    unfold collectSnapshot at h
    -- Only interfaces and routes are demanded; what else fails is left out.
    cases hi : getInterfaces d.links d.files true request.includeSysctls with
    | error e =>
      rw [hi] at h
      cases h
    | ok interfaces =>
      rw [hi] at h
      change (getRoutes d.routes {} (interfaceNames interfaces) >>= _) = _ at h
      cases hr : getRoutes d.routes {} (interfaceNames interfaces) with
      | error e =>
        rw [hr] at h
        cases h
      | ok dump =>
        rw [hr] at h
        exact ⟨interfaces, dump, rfl, hr, (Except.ok.inj h).symm⟩
  · rintro ⟨interfaces, dump, hi, hr, rfl⟩
    unfold collectSnapshot
    rw [hi]
    show (getRoutes d.routes {} (interfaceNames interfaces) >>= _) = _
    rw [hr]
    rfl

/-! ### Names -/

/-- Every row is named after the interfaces of the snapshot. -/
structure Named (s : Snapshot) : Prop where
  hops : ∀ r ∈ s.routes, ∀ hop ∈ r.nextHops, hop.Named (interfaceNames s.interfaces)
  neighbors : ∀ n ∈ s.neighbors,
    n.interfaceName = (interfaceNames s.interfaces n.interfaceIndex).getD ""
  sockets : ∀ k ∈ s.sockets,
    k.interfaceName = (interfaceNames s.interfaces k.interfaceIndex).getD ""
  qdiscs : ∀ q ∈ s.qdiscs,
    q.interfaceName = (interfaceNames s.interfaces q.interfaceIndex).getD ""

/-- The rows of a section come from its collector. -/
theorem mem_orWarn {α : Type} {wanted : Bool} {what : String} {result : Except String (List α)}
    {x : α} (h : x ∈ (orWarn wanted what result).1) : ∃ rows, result = .ok rows ∧ x ∈ rows := by
  unfold orWarn at h
  cases wanted with
  | false => cases h
  | true =>
    cases result with
    | error e => cases h
    | ok rows => exact ⟨rows, rfl, h⟩

/-- The sockets of the section are those of its dump. -/
theorem mem_socketSection {ifNames : Nat → Option String} {k : InetSocket}
    (h : k ∈ (socketSection d request ifNames).1) :
    ∃ dump, getSockets (socketFilter request) ifNames d.sockets = .ok dump ∧ k ∈ dump.sockets := by
  unfold socketSection at h
  split at h
  · split at h
    · exact ⟨_, ‹_›, h⟩
    · cases h
  · cases h

/-- Each section is named by its own collector. -/
theorem snapshotOf_named {interfaces : List DumpedInterface} {dump : Collect.RouteDump}
    (hr : getRoutes d.routes {} (interfaceNames interfaces) = .ok dump) :
    Named (snapshotOf d around request interfaces dump) where
  hops := Collect.getRoutes_named hr
  neighbors := by
    intro n hn
    obtain ⟨rows, hrows, hmem⟩ := mem_orWarn hn
    exact Collect.getNeighbors_named hrows n hmem
  sockets := by
    intro k hk
    obtain ⟨rows, hrows, hmem⟩ := mem_socketSection hk
    exact Collect.getSockets_named hrows k hmem
  qdiscs := by
    intro q hq
    obtain ⟨rows, hrows, hmem⟩ := mem_orWarn hq
    exact collectQdiscs_named hrows q hmem

/-! ### Warnings -/

/-- A section that is asked for is all that its collector returned; any other is empty. -/
def Whole {α : Type} (wanted : Bool) (result : Except String (List α)) (rows : List α) : Prop :=
  if wanted then result = .ok rows else rows = []

/-- Sockets that are asked for are those of every row, with their summary. -/
def SocketsWhole (d : Device) (request : GetSnapshotRequest) (ifNames : Nat → Option String)
    (sockets : List InetSocket) (summary : Option InetSummary) : Prop :=
  if request.includeSockets then
    EveryRow (socketFilter request) ifNames d.sockets sockets ∧
      summary = some (Collect.summarize sockets)
  else sockets = [] ∧ summary = none

/-- A section that cannot fail is there if it is asked for, and only then. -/
def Given {α : Type} (wanted : Bool) (read : α) (shown : Option α) : Prop :=
  shown = if wanted then some read else none

/-- Every section is whole. -/
structure Complete (d : Device) (around : Surroundings) (request : GetSnapshotRequest)
    (s : Snapshot) : Prop where
  rules : Whole true (getRules d.rules .unspecified none) s.rules
  neighbors : Whole request.includeNeighbors
    (getNeighbors d.neighbors {} (interfaceNames s.interfaces)) s.neighbors
  sockets : SocketsWhole d request (interfaceNames s.interfaces) s.sockets s.socketSummary
  qdiscs : Whole request.includeQdiscs
    (collectQdiscs around.qdiscs (interfaceNames s.interfaces)) s.qdiscs
  sysctls : Given request.includeSysctls (Collect.readGlobalSysctls d.files) s.sysctls
  counters : Given request.includeCounters (Collect.readCounters d.files) s.counters
  firewall : Given request.includeFirewall (Collect.collectFirewall around.firewall true) s.firewall

/-- A section gives no warning exactly when it is whole. -/
theorem orWarn_whole {α : Type} (wanted : Bool) (what : String)
    (result : Except String (List α)) :
    (orWarn wanted what result).2 = [] ↔ Whole wanted result (orWarn wanted what result).1 := by
  cases wanted with
  | false => exact iff_of_true rfl rfl
  | true =>
    cases result with
    | ok rows => exact iff_of_true rfl rfl
    | error e => exact iff_of_false (List.cons_ne_nil _ _) (fun h => by cases h)

/-- The sockets give no warning exactly when none of them is missing. -/
theorem socketSection_whole (d : Device) (request : GetSnapshotRequest)
    (ifNames : Nat → Option String) :
    (socketSection d request ifNames).2.2 = [] ↔
      SocketsWhole d request ifNames (socketSection d request ifNames).1
        (socketSection d request ifNames).2.1 := by
  unfold socketSection SocketsWhole
  cases request.includeSockets with
  | false => exact iff_of_true rfl ⟨rfl, rfl⟩
  | true =>
    cases hdump : getSockets (socketFilter request) ifNames d.sockets with
    | error e =>
      refine iff_of_false (List.cons_ne_nil _ _) ?_
      rintro ⟨hrows, -⟩
      obtain ⟨dump, hsame, -⟩ := Collect.getSockets_whole_iff.mpr hrows
      rw [hdump] at hsame
      cases hsame
    | ok dump =>
      obtain ⟨-, -, -, hsummary⟩ := Collect.getSockets_fromRows hdump
      cases hcut : dump.truncated with
      | false =>
        refine iff_of_true (by simp [hcut]) ⟨?_, congrArg some hsummary⟩
        exact Collect.getSockets_whole_iff.mp ⟨dump, hdump, hcut, rfl⟩
      | true =>
        -- a dump of every row would not have been cut off
        refine iff_of_false (by simp [hcut]) ?_
        rintro ⟨hrows, -⟩
        obtain ⟨dump', hsame, hwhole, -⟩ := Collect.getSockets_whole_iff.mpr hrows
        rw [hdump] at hsame
        obtain rfl := Except.ok.inj hsame
        rw [hcut] at hwhole
        cases hwhole

/-- The warnings are those of the sections. -/
theorem snapshotOf_complete (d : Device) (around : Surroundings) (request : GetSnapshotRequest)
    (interfaces : List DumpedInterface) (dump : Collect.RouteDump) :
    (snapshotOf d around request interfaces dump).collectionWarnings = [] ↔
      Complete d around request (snapshotOf d around request interfaces dump) := by
  -- no warnings at all, so none from any section
  show (orWarn true _ _).2 ++ (orWarn request.includeNeighbors _ _).2 ++
    (socketSection d request _).2.2 ++ (orWarn request.includeQdiscs _ _).2 = [] ↔ _
  rw [List.append_eq_nil_iff, List.append_eq_nil_iff, List.append_eq_nil_iff, orWarn_whole,
    orWarn_whole, orWarn_whole, socketSection_whole]
  constructor
  · rintro ⟨⟨⟨hrules, hneighbors⟩, hsockets⟩, hqdiscs⟩
    exact ⟨hrules, hneighbors, hsockets, hqdiscs, rfl, rfl, rfl⟩
  · exact fun hc => ⟨⟨⟨hc.rules, hc.neighbors⟩, hc.sockets⟩, hc.qdiscs⟩

/-- **The warnings tell what is missing.**  A snapshot has no warnings exactly when every section
    that was asked for is whole, and whatever was collected, its routes, neighbours, sockets and
    queueing disciplines are named after its own interfaces. -/
theorem collect_snapshot_complete (h : collectSnapshot d around request = .ok s) :
    (s.collectionWarnings = [] ↔ Complete d around request s) ∧ Named s := by
  obtain ⟨interfaces, dump, -, hr, rfl⟩ := collectSnapshot_ok_iff.mp h
  exact ⟨snapshotOf_complete d around request interfaces dump, snapshotOf_named hr⟩

/-- The phone with a neighbour and a connection over its interface. -/
def busyPhone : Device :=
  { phone with
    neighbors := fun v => match v with
      | .v4 => .ok [⟨3, .reachable, false, [.destination (some (.v4 0x0a0000fe))]⟩]
      | .v6 => .ok []
    sockets :=
      { opened := .ok ()
        dump := fun request => .ok (match request.protocol, request.family with
          | .tcp, .inet => [{ family := .inet, state := 1, interfaceId := 3, cookie := 1 }]
          | _, _ => []) } }

/-- One queueing discipline, and no firewall and no namespace besides the phone's own. -/
def phoneSurroundings : Surroundings where
  qdiscs := .ok [⟨3, 0, 0xffffffff, [.kind "noqueue", .stats 40 1 0 0]⟩]
  firewall :=
    { readDir := fun _ => none, present := fun _ => false, runTool := fun _ _ => none }
  namespaces := { current := some 4026531833, entries := none }

/-- A request for every section. -/
def everything : GetSnapshotRequest where
  includeSockets := true
  includeSocketTcpInfo := true
  includeNeighbors := true
  includeFirewall := true
  includeQdiscs := true
  includeCounters := true
  includeSysctls := true

/-- The snapshot of the phone is whole. -/
theorem collect_snapshot_complete_phone :
    ∃ s, collectSnapshot busyPhone phoneSurroundings everything = .ok s ∧
      Complete busyPhone phoneSurroundings everything s ∧ Named s ∧
        s.neighbors.length = 1 ∧
          s.sockets.map InetSocket.socketCookie = [1] ∧
            s.qdiscs.map Qdisc.bytesSent = [40] := by
  have hok : ∃ s, collectSnapshot busyPhone phoneSurroundings everything = .ok s ∧
      s.collectionWarnings = [] ∧ s.neighbors.length = 1 ∧
        s.sockets.map InetSocket.socketCookie = [1] ∧
          s.qdiscs.map Qdisc.bytesSent = [40] :=
    ⟨_, rfl, rfl, List.length_mergeSort _, rfl, rfl⟩
  obtain ⟨s, hs, hwarnings, hrows⟩ := hok
  obtain ⟨hcomplete, hnamed⟩ := collect_snapshot_complete hs
  exact ⟨s, hs, hcomplete.mp hwarnings, hnamed, hrows⟩

/-! ### The diagnosis -/

/-- A request for all that a diagnosis starts from. -/
structure GetSnapshotRequest.ForDiagnosis (request : GetSnapshotRequest) : Prop where
  sysctls : request.includeSysctls = true
  neighbors : request.includeNeighbors = true
  sockets : request.includeSockets = true
  tcpInfo : request.includeSocketTcpInfo = true

/-- The state of a diagnosis has the layers of the snapshot. -/
structure Shows (s : Snapshot) (state : Diag.DiagState) : Prop where
  interfaces : state.interfaces = s.interfaces.map DumpedInterface.toInterface
  routes : state.routes = s.routes.map DumpedRoute.toRoute
  rules : state.rules = s.rules.map (fun r => r.rule.toRoutingRule)
  neighbors : state.neighbors = s.neighbors.map WatchedNeighbor.toNeighbor
  sockets : state.sockets = s.sockets.map InetSocket.toSocket
  socketSummary : some state.socketSummary = s.socketSummary.map InetSummary.toSocketSummary
  clat : state.clat = s.clat.toClat464State

/-- A diagnosis succeeds when all its collectors do. -/
theorem gather_succeeds (kernel : Diag.Kernel) (diagnose : Diag.DiagnoseRequest)
    {interfaces : List Interface} {routes : List Route} {rules : List RoutingRule}
    {neighbors : List Neighbor} {sockets : List Socket} {summary : SocketSummary}
    (hi : kernel.interfaces = .ok interfaces) (hr : kernel.routes = .ok routes)
    (hu : kernel.rules = .ok rules) (hn : kernel.neighbors = .ok neighbors)
    (hs : kernel.sockets = .ok (sockets, summary)) :
    ∃ state, Diag.gather kernel diagnose = .ok state ∧ state.interfaces = interfaces ∧
      state.routes = routes ∧ state.rules = rules ∧ state.neighbors = neighbors ∧
        state.sockets = sockets ∧ state.socketSummary = summary ∧
          state.clat = Diag.detectClat interfaces := by
  unfold Diag.gather
  rw [hi, hr, hu, hn, hs]
  exact ⟨_, rfl, rfl, rfl, rfl, rfl, rfl, rfl, rfl⟩

/-- The diagnosis asks for the rules in the same way. -/
theorem Complete.kernel_rules (hcomplete : Complete d around request s) :
    d.kernel.rules = .ok (s.rules.map (fun r => r.rule.toRoutingRule)) := by
  have hrules : getRules d.rules .unspecified none = .ok s.rules := hcomplete.rules
  show (getRules d.rules .unspecified none).map _ = _
  rw [hrules]
  rfl

/-- It asks for the neighbours in the same way. -/
theorem Complete.kernel_neighbors (hcomplete : Complete d around request s)
    (hfor : request.ForDiagnosis) (hnames : d.ifNames = interfaceNames s.interfaces) :
    d.kernel.neighbors = .ok (s.neighbors.map WatchedNeighbor.toNeighbor) := by
  have hneighbors := hcomplete.neighbors
  rw [Whole, if_pos hfor.neighbors, ← hnames] at hneighbors
  show (getNeighbors d.neighbors {} d.ifNames).map _ = _
  rw [hneighbors]
  rfl

/-- It asks for the sockets in the same way, and their summary is the same. -/
theorem Complete.kernel_sockets (hcomplete : Complete d around request s)
    (hfor : request.ForDiagnosis) (hnames : d.ifNames = interfaceNames s.interfaces) :
    ∃ summary, s.socketSummary = some summary ∧
      d.kernel.sockets = .ok (s.sockets.map InetSocket.toSocket, summary.toSocketSummary) := by
  have hfilter : socketFilter request = Device.socketFilter := by
    rw [socketFilter, hfor.tcpInfo, Device.socketFilter]
  have hsockets := hcomplete.sockets
  rw [SocketsWhole, if_pos hfor.sockets, ← hnames, hfilter] at hsockets
  obtain ⟨hrows, hsummary⟩ := hsockets
  obtain ⟨dump, hdump, -, hsame⟩ := Collect.getSockets_whole_iff.mpr hrows
  obtain ⟨-, -, -, hsum⟩ := Collect.getSockets_fromRows hdump
  refine ⟨dump.summary, ?_, ?_⟩
  · rw [hsummary, hsum, hsame]
  · rw [← hsame]
    unfold Device.kernel
    dsimp only
    rw [hdump]

/-- **A diagnosis starts from what a snapshot shows.**  On a device of which a snapshot for a
    diagnosis has no warnings every diagnosis gathers its state, and the layers in it are those
    of the snapshot. -/
theorem gather_of_snapshot (diagnose : Diag.DiagnoseRequest)
    (h : collectSnapshot d around request = .ok s) (hfor : request.ForDiagnosis)
    (hwarnings : s.collectionWarnings = []) :
    ∃ state, Diag.gather d.kernel diagnose = .ok state ∧ Shows s state := by
  obtain ⟨interfaces, dump, hi, hr, rfl⟩ := collectSnapshot_ok_iff.mp h
  have hcomplete := (snapshotOf_complete d around request interfaces dump).mp hwarnings
  -- the diagnosis asks for the interfaces and the routes in the same way
  rw [hfor.sysctls] at hi
  have hinterfaces : d.interfaces = .ok interfaces := hi
  have hnames : d.ifNames = interfaceNames interfaces := by
    rw [Device.ifNames, hinterfaces]
  have hki : d.kernel.interfaces = .ok (interfaces.map DumpedInterface.toInterface) := by
    show d.interfaces.map _ = _
    rw [hinterfaces]
    rfl
  have hkr : d.kernel.routes = .ok (dump.routes.map DumpedRoute.toRoute) := by
    show (getRoutes d.routes {} d.ifNames).map _ = _
    rw [hnames, hr]
    rfl
  obtain ⟨summary, hsummary, hks⟩ := hcomplete.kernel_sockets hfor hnames
  obtain ⟨state, hstate, h1, h2, h3, h4, h5, h6, h7⟩ := gather_succeeds d.kernel diagnose hki hkr
    hcomplete.kernel_rules (hcomplete.kernel_neighbors hfor hnames) hks
  refine ⟨state, hstate, h1, h2, h3, h4, h5, ?_, ?_⟩
  · rw [h6, hsummary]
    rfl
  · rw [h7, ← detectClat_map]
    rfl

/-- The phone is diagnosed from its snapshot. -/
theorem gather_of_snapshot_phone :
    ∃ s state, collectSnapshot busyPhone phoneSurroundings everything = .ok s ∧
      Diag.gather busyPhone.kernel {} = .ok state ∧ Shows s state := by
  have hok : ∃ s, collectSnapshot busyPhone phoneSurroundings everything = .ok s ∧
      s.collectionWarnings = [] := ⟨_, rfl, rfl⟩
  obtain ⟨s, hs, hwarnings⟩ := hok
  obtain ⟨state, hstate, hshows⟩ := gather_of_snapshot {} hs ⟨rfl, rfl, rfl, rfl⟩ hwarnings
  exact ⟨s, state, hs, hstate, hshows⟩

end Snapshots

end Netdiag.Daemon
