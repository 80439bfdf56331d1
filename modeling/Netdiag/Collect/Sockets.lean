import Netdiag.Net.Messages
import Netdiag.Probe.Context

namespace Netdiag.Collect

/-!
# Collect — sockets

`daemon/src/collect/sockets.rs`: TCP and UDP sockets over `NETLINK_INET_DIAG`.

* `SocketFilter` — the request; list entries are the `i32`s of the message.
* `InetResponse` / `responseToProto` — a row of a dump and the `Socket` made of it.
* `Kernel` — what the kernel answers: whether the diag socket opens, and the rows of the dump
  an `InetRequest` asks for.
* `getSockets` — one dump for every wanted protocol and family, the rows filtered and
  counted against the limit.
* `getSockets_eq` — with dumps that succeed: the first `limit` passing rows, and whether
  there are more.
* `getSockets_whole_iff` — a result that is not truncated is that of every row.
-/

/-! ### The request -/

/-- `SocketFilter`. -/
structure SocketFilter where
  protocols : List Int := []
  families : List Int := []
  states : List Int := []
  uids : List Nat := []
  interfaceIndexes : List Nat := []
  localPort : Nat := 0
  remotePort : Nat := 0
  includeTcpInfo : Bool := false
  limit : Nat := 0
  deriving DecidableEq, Repr

/-- `IPPROTO_TCP` and `IPPROTO_UDP`. -/
inductive Protocol
  | tcp
  | udp
  deriving DecidableEq, Repr

/-- `AF_INET` and `AF_INET6`. -/
inductive Family
  | inet
  | inet6
  deriving DecidableEq, Repr

/-- `DEFAULT_SOCKET_LIMIT`. -/
def defaultSocketLimit : Nat := 4096

/-- The limit `get_sockets` works with. -/
def SocketFilter.rows (filter : SocketFilter) : Nat :=
  if filter.limit = 0 then defaultSocketLimit else filter.limit

/-- The number of a protocol as a `SocketProtocol`. -/
def Protocol.number : Protocol → Int
  | .tcp => 1
  | .udp => 2

/-- The number of a family as an `IpFamily`. -/
def Family.number : Family → Int
  | .inet => 1
  | .inet6 => 2

/-- `wanted_protocols`. -/
def wantedProtocols (filter : SocketFilter) : List Protocol :=
  if filter.protocols.isEmpty then [.tcp, .udp]
  else filter.protocols.filterMap (fun p =>
    if p = 1 then some .tcp else if p = 2 then some .udp else none)

/-- `wanted_families`. -/
def wantedFamilies (filter : SocketFilter) : List Family :=
  if filter.families.isEmpty then [.inet, .inet6]
  else filter.families.filterMap (fun f =>
    if f = 1 then some .inet else if f = 2 then some .inet6 else none)

/-! ### State masks -/

/-- The number of a state on the wire. -/
def tcpStateNumber : TcpState → Int
  | .unspecified => 0
  | .established => 1
  | .synSent => 2
  | .synRecv => 3
  | .finWait1 => 4
  | .finWait2 => 5
  | .timeWait => 6
  | .close => 7
  | .closeWait => 8
  | .lastAck => 9
  | .listen => 10
  | .closing => 11
  | .newSynRecv => 12

/-- `StateFlags`: a set of states. -/
abbrev StateFlags := List TcpState

/-- `StateFlags::all`. -/
def allStates : StateFlags :=
  [.established, .synSent, .synRecv, .finWait1, .finWait2, .timeWait, .close, .closeWait,
    .lastAck, .listen, .closing]

/-- The flag of one entry of `states`: nothing for a state without a flag and for a number
    that is no state. -/
def stateFlag (s : Int) : StateFlags := allStates.filter (fun state => tcpStateNumber state = s)

/-- `state_flags`. -/
def stateFlags (filter : SocketFilter) (protocol : Protocol) : StateFlags :=
  if protocol = .udp then allStates
  else if filter.states.isEmpty then allStates
  else
    let flags := filter.states.flatMap stateFlag
    if flags.isEmpty then allStates else flags

/-! ### Rows -/

/-- `Timer`, durations in milliseconds. -/
inductive Timer
  | retransmit (ms retransmits : Nat)
  | keepAlive (ms : Nat)
  | timeWait
  | probe (ms : Nat)
  deriving DecidableEq, Repr

/-- `struct tcp_info`, as far as anything depends on it. -/
structure KernelTcpInfo where
  retrans : Nat
  retransmits : Nat
  deriving DecidableEq, Repr

/-- `Nla`. -/
inductive Nla
  | mark (mark : Nat)
  | congestion (name : String)
  | tcpInfo (info : KernelTcpInfo)
  | other
  deriving DecidableEq, Repr

/-- `InetResponse`: header, socket id and attributes.  Ports are 16 bits. -/
structure InetResponse where
  family : Family
  state : Nat
  timer : Option Timer := none
  sourceAddress : IpAddr := .v4 0
  sourcePort : BitVec 16 := 0
  destinationAddress : IpAddr := .v4 0
  destinationPort : BitVec 16 := 0
  interfaceId : Nat := 0
  cookie : Nat := 0
  recvQueue : Nat := 0
  sendQueue : Nat := 0
  uid : Nat := 0
  inode : Nat := 0
  nlas : List Nla := []
  deriving DecidableEq, Repr

/-- `Socket`.  `retransmitting` is the field of `tcp_info`, if that is there. -/
structure InetSocket extends Socket where
  protocol : Protocol := .tcp
  localAddress : IpAddr := .v4 0
  localPort : Nat := 0
  remoteAddress : IpAddr := .v4 0
  remotePort : Nat := 0
  uid : Nat := 0
  inode : Nat := 0
  interfaceIndex : Nat := 0
  interfaceName : String := ""
  rxQueue : Nat := 0
  txQueue : Nat := 0
  mark : Nat := 0
  hasMark : Bool := false
  netId : Nat := 0
  retransmitting : Option Bool := none
  congestionControl : String := ""
  timer : Nat := 0
  timerExpiresMs : Nat := 0
  retransmits : Nat := 0
  socketCookie : Nat := 0
  deriving DecidableEq, Repr

/-- `tcp_state_to_proto`. -/
def tcpStateToProto : Nat → TcpState
  | 1 => .established
  | 2 => .synSent
  | 3 => .synRecv
  | 4 => .finWait1
  | 5 => .finWait2
  | 6 => .timeWait
  | 7 => .close
  | 8 => .closeWait
  | 9 => .lastAck
  | 10 => .listen
  | 11 => .closing
  | 12 => .newSynRecv
  | _ => .unspecified

/-- `normalize_address`: a v4-mapped address becomes plain IPv4. -/
def normalizeAddress : IpAddr → IpAddr
  | .v4 bits => .v4 bits
  | .v6 bits => if bits >>> 32 = 0xffff then .v4 (bits.setWidth 32) else .v6 bits

/-- The timer kinds have the numbers of `ss`. -/
def InetSocket.withTimer (s : InetSocket) : Timer → InetSocket
  | .retransmit ms retransmits => { s with timer := 1, timerExpiresMs := ms, retransmits }
  | .keepAlive ms => { s with timer := 2, timerExpiresMs := ms, retransmits := 0 }
  | .timeWait => { s with timer := 3, timerExpiresMs := 0, retransmits := 0 }
  | .probe ms => { s with timer := 4, timerExpiresMs := ms, retransmits := 0 }

/-- One attribute of a row. -/
def InetSocket.withNla (s : InetSocket) : Nla → InetSocket
  | .mark mark => { s with mark, hasMark := true, netId := Probe.netIdFromMark mark }
  | .congestion name => { s with congestionControl := name }
  | .tcpInfo info =>
    { s with retransmitting := some (decide (0 < info.retrans ∨ 0 < info.retransmits)) }
  | .other => s

/-- `response_to_proto`; it never returns `None`. -/
def responseToProto (response : InetResponse) (protocol : Protocol)
    (ifNames : Nat → Option String) : InetSocket :=
  let s : InetSocket :=
    { family := if response.family = .inet then .v4 else .v6
      state := tcpStateToProto response.state
      protocol
      localAddress := normalizeAddress response.sourceAddress
      localPort := response.sourcePort.toNat
      remoteAddress := normalizeAddress response.destinationAddress
      remotePort := response.destinationPort.toNat
      uid := response.uid
      inode := response.inode
      interfaceIndex := response.interfaceId
      interfaceName := (ifNames response.interfaceId).getD ""
      rxQueue := response.recvQueue
      txQueue := response.sendQueue
      socketCookie := response.cookie }
  let s := match response.timer with
    | some timer => s.withTimer timer
    | none => s
  response.nlas.foldl InetSocket.withNla s

/-- `passes_filter`. -/
def passesFilter (s : InetSocket) (filter : SocketFilter) : Bool :=
  if !filter.uids.isEmpty && !filter.uids.contains s.uid then false
  else if !filter.interfaceIndexes.isEmpty &&
      !filter.interfaceIndexes.contains s.interfaceIndex then false
  -- A port of zero is no filter.
  else if filter.localPort ≠ 0 ∧ s.localPort ≠ filter.localPort then false
  else if filter.remotePort ≠ 0 ∧ s.remotePort ≠ filter.remotePort then false
  else true

/-! ### The dumps -/

/-- `InetRequest`; `extensions` asks for `tcp_info` and the congestion control. -/
structure InetRequest where
  family : Family
  protocol : Protocol
  extensions : Bool
  states : StateFlags
  deriving DecidableEq, Repr

/-- The request `dump` sends. -/
def inetRequest (filter : SocketFilter) (protocol : Protocol) (family : Family) : InetRequest :=
  { family, protocol, extensions := filter.includeTcpInfo && protocol == .tcp,
    states := stateFlags filter protocol }

/-- The kernel's side of `get_sockets`: does the diag socket open, and what does a dump
    return. -/
structure Kernel where
  opened : Except Ipc.Error Unit
  dump : InetRequest → Except Ipc.Error (List InetResponse)

/-- The loop over the rows of one dump: the sockets collected, and whether it broke out at
    the limit.  The rows collected never pass the limit, so the cast of their number to
    `u32` in the source keeps it. -/
def collectRows (filter : SocketFilter) (ifNames : Nat → Option String) (protocol : Protocol) :
    List InetResponse → List InetSocket → List InetSocket × Bool
  | [], out => (out, false)
  | response :: responses, out =>
    let s := responseToProto response protocol ifNames
    if !passesFilter s filter then collectRows filter ifNames protocol responses out
    -- The limit is looked at after the filter.
    else if filter.rows ≤ out.length then (out, true)
    else collectRows filter ifNames protocol responses (out ++ [s])

/-- The two outer loops, over these protocols and families. -/
def collectDumps (filter : SocketFilter) (ifNames : Nat → Option String) (kernel : Kernel) :
    List (Protocol × Family) → List InetSocket → Except Ipc.Error (List InetSocket × Bool)
  | [], out => .ok (out, false)
  | (protocol, family) :: rest, out =>
    match kernel.dump (inetRequest filter protocol family) with
    -- One dump that fails fails the whole.
    | .error e => .error e
    | .ok responses =>
      match collectRows filter ifNames protocol responses out with
      | (out, true) => .ok (out, true)
      | (out, false) => collectDumps filter ifNames kernel rest out

/-- `SocketSummary` with all its counters. -/
structure InetSummary extends SocketSummary where
  byState : List (TcpState × Nat) := []
  listen : Nat := 0
  v4Count : Nat := 0
  v6Count : Nat := 0
  deriving DecidableEq, Repr

/-- One more under `state` in the map `by_state`. -/
def bumpState (state : TcpState) : List (TcpState × Nat) → List (TcpState × Nat)
  | [] => [(state, 1)]
  | (s, n) :: rest => if s = state then (s, n + 1) :: rest else (s, n) :: bumpState state rest

/-- The loop body of `summarize`. -/
def InetSummary.add (summary : InetSummary) (s : InetSocket) : InetSummary :=
  let summary := { summary with byState := bumpState s.state summary.byState }
  -- The other states are counted in the map alone.
  let summary := match s.state with
    | .established => { summary with established := summary.established + 1 }
    | .synSent => { summary with synSent := summary.synSent + 1 }
    | .closeWait => { summary with closeWait := summary.closeWait + 1 }
    | .finWait1 | .finWait2 => { summary with finWait := summary.finWait + 1 }
    | .timeWait => { summary with timeWait := summary.timeWait + 1 }
    | .listen => { summary with listen := summary.listen + 1 }
    | _ => summary
  let summary := match s.family with
    | .v4 => { summary with v4Count := summary.v4Count + 1 }
    | .v6 => { summary with v6Count := summary.v6Count + 1 }
    | .unspecified => summary
  if s.retransmitting.getD false then
    { summary with retransmitting := summary.retransmitting + 1 }
  else summary

/-- `summarize`. -/
def summarize (sockets : List InetSocket) : InetSummary :=
  sockets.foldl InetSummary.add { total := sockets.length }

/-- `SocketDump`. -/
structure SocketDump where
  sockets : List InetSocket
  summary : InetSummary
  truncated : Bool
  deriving DecidableEq, Repr

/-- The dumps `get_sockets` makes, in its order. -/
def dumpPairs (filter : SocketFilter) : List (Protocol × Family) :=
  (wantedProtocols filter).flatMap (fun p => (wantedFamilies filter).map (fun f => (p, f)))

/-- `get_sockets`. -/
def getSockets (filter : SocketFilter) (ifNames : Nat → Option String) (kernel : Kernel) :
    Except Ipc.Error SocketDump :=
  match kernel.opened with
  | .error e => .error e
  | .ok () =>
    match collectDumps filter ifNames kernel (dumpPairs filter) [] with
    | .error e => .error e
    | .ok (out, truncated) => .ok { sockets := out, summary := summarize out, truncated }

/-! ### What the loops return -/

/-- The sockets of these rows that pass the filter. -/
def passing (filter : SocketFilter) (ifNames : Nat → Option String) (protocol : Protocol)
    (responses : List InetResponse) : List InetSocket :=
  (responses.map (responseToProto · protocol ifNames)).filter (passesFilter · filter)

variable {filter : SocketFilter} {ifNames : Nat → Option String}

/-- The first rows up to the limit, and whether there are more. -/
def SocketFilter.cut (filter : SocketFilter) (sockets : List InetSocket) : List InetSocket × Bool :=
  (sockets.take filter.rows, decide (filter.rows < sockets.length))

theorem cut_of_le {sockets : List InetSocket} (h : sockets.length ≤ filter.rows) :
    filter.cut sockets = (sockets, false) := by
  simp only [SocketFilter.cut, List.take_of_length_le h, decide_eq_false (Nat.not_lt.mpr h)]

/-- A cut that has been made is not touched by what follows. -/
theorem cut_append {sockets : List InetSocket} (h : filter.rows < sockets.length)
    (more : List InetSocket) :
    filter.cut (sockets ++ more) = (sockets.take filter.rows, true) := by
  have hlen : filter.rows < (sockets ++ more).length := by
    rw [List.length_append]
    omega
  simp only [SocketFilter.cut, List.take_append_of_le_length (Nat.le_of_lt h), hlen,
    decide_true]

/-- One dump appends its passing rows, up to the limit. -/
theorem collectRows_eq (protocol : Protocol) (responses : List InetResponse)
    (out : List InetSocket) (hout : out.length ≤ filter.rows) :
    collectRows filter ifNames protocol responses out =
      filter.cut (out ++ passing filter ifNames protocol responses) := by
  induction responses generalizing out with
  | nil => simpa [passing, collectRows] using (cut_of_le hout).symm
  | cons response responses ih =>
    simp only [collectRows]
    cases hpass : passesFilter (responseToProto response protocol ifNames) filter with
    | false => simpa [passing, hpass] using ih out hout
    | true =>
      simp only [Bool.not_true, Bool.false_eq_true, if_false]
      split
      · -- the row that passes finds the limit reached
        rename_i hfull
        have heq : out.length = filter.rows := Nat.le_antisymm hout hfull
        have hover : filter.rows <
            (out ++ [responseToProto response protocol ifNames]).length := by simp [heq]
        have hcut := cut_append hover (passing filter ifNames protocol responses)
        rw [List.take_append_of_le_length (Nat.le_of_eq heq.symm), ← heq, List.take_length] at hcut
        simpa [passing, hpass] using hcut.symm
      · rename_i hroom
        have hout' : (out ++ [responseToProto response protocol ifNames]).length ≤ filter.rows := by
          simp only [List.length_append, List.length_singleton]
          omega
        simpa [passing, hpass] using ih _ hout'

/-- All dumps together, when they succeed with these rows. -/
theorem collectDumps_eq {kernel : Kernel} (rows : Protocol × Family → List InetResponse)
    (pairs : List (Protocol × Family))
    (hrows : ∀ x ∈ pairs, kernel.dump (inetRequest filter x.1 x.2) = .ok (rows x))
    (out : List InetSocket) (hout : out.length ≤ filter.rows) :
    collectDumps filter ifNames kernel pairs out =
      .ok (filter.cut (out ++ pairs.flatMap (fun x => passing filter ifNames x.1 (rows x)))) := by
  induction pairs generalizing out with
  | nil => simp [collectDumps, cut_of_le hout]
  | cons x pairs ih =>
    obtain ⟨protocol, family⟩ := x
    simp only [collectDumps, hrows _ List.mem_cons_self, collectRows_eq protocol _ out hout]
    rw [List.flatMap_cons, ← List.append_assoc]
    generalize hsofar : out ++ passing filter ifNames protocol (rows (protocol, family)) = sofar
    by_cases hfull : filter.rows < sofar.length
    · rw [cut_append hfull]
      simp [SocketFilter.cut, hfull]
    · have hle := Nat.le_of_not_lt hfull
      rw [cut_of_le hle]
      exact ih (fun y hy => hrows y (List.mem_cons_of_mem _ hy)) sofar hle

/-- **The dump.**  With a kernel that answers, `get_sockets` returns the first passing rows
    up to the limit, and whether there are more. -/
theorem getSockets_eq {kernel : Kernel} (rows : Protocol × Family → List InetResponse)
    (hopened : kernel.opened = .ok ())
    (hrows : ∀ x ∈ dumpPairs filter, kernel.dump (inetRequest filter x.1 x.2) = .ok (rows x)) :
    ∃ dump, getSockets filter ifNames kernel = .ok dump ∧
      (dump.sockets, dump.truncated) = filter.cut
        ((dumpPairs filter).flatMap (fun x => passing filter ifNames x.1 (rows x))) := by
  have hdumps : collectDumps filter ifNames kernel (dumpPairs filter) [] = _ :=
    collectDumps_eq rows (dumpPairs filter) hrows [] (Nat.zero_le _)
  rw [List.nil_append] at hdumps
  exact ⟨_, by simp only [getSockets, hopened, hdumps]; rfl, rfl⟩

/-- A loop that was not broken out of asked for every dump, and all of them answered. -/
theorem collectDumps_answered {kernel : Kernel} {pairs : List (Protocol × Family)}
    {out result : List InetSocket}
    (ok : collectDumps filter ifNames kernel pairs out = .ok (result, false)) :
    ∀ x ∈ pairs, ∃ rows, kernel.dump (inetRequest filter x.1 x.2) = .ok rows := by
  induction pairs generalizing out with
  | nil =>
    intro x hx
    cases hx
  | cons pair pairs ih =>
    obtain ⟨protocol, family⟩ := pair
    simp only [collectDumps] at ok
    cases hdump : kernel.dump (inetRequest filter protocol family) with
    -- A dump that fails fails the collection.
    | error e =>
      rw [hdump] at ok
      cases ok
    | ok responses =>
      rw [hdump] at ok
      rcases hrows : collectRows filter ifNames protocol responses out with ⟨more, full⟩
      simp only [hrows] at ok
      cases full with
      | true => cases ok
      | false =>
        intro x hx
        rcases List.mem_cons.mp hx with rfl | hx
        · exact ⟨responses, hdump⟩
        · exact ih ok x hx

/-- The sockets of all rows that pass the filter, of dumps that all answer, within the limit. -/
structure EveryRow (filter : SocketFilter) (ifNames : Nat → Option String) (kernel : Kernel)
    (sockets : List InetSocket) : Prop where
  opened : kernel.opened = .ok ()
  answered : ∃ rows : Protocol × Family → List InetResponse,
    (∀ x ∈ dumpPairs filter, kernel.dump (inetRequest filter x.1 x.2) = .ok (rows x)) ∧
      sockets = (dumpPairs filter).flatMap (fun x => passing filter ifNames x.1 (rows x))
  room : sockets.length ≤ filter.rows

/-- A dump that is not cut off has every row, and a dump of every row is not cut off. -/
theorem getSockets_whole_iff {kernel : Kernel} {sockets : List InetSocket} :
    (∃ dump, getSockets filter ifNames kernel = .ok dump ∧ dump.truncated = false ∧
      dump.sockets = sockets) ↔ EveryRow filter ifNames kernel sockets := by
  constructor
  · rintro ⟨dump, ok, whole, rfl⟩
    unfold getSockets at ok
    split at ok
    · cases ok
    rename_i hopened
    split at ok
    · cases ok
    rename_i out truncated hdumps
    obtain rfl := Except.ok.inj ok
    obtain rfl : truncated = false := whole
    choose! rows hrows using collectDumps_answered hdumps
    have heq : collectDumps filter ifNames kernel (dumpPairs filter) [] = _ :=
      collectDumps_eq rows (dumpPairs filter) hrows [] (Nat.zero_le _)
    rw [hdumps, List.nil_append] at heq
    obtain ⟨hout, hroom⟩ := Prod.mk.inj (Except.ok.inj heq)
    have hle := Nat.le_of_not_lt (of_decide_eq_false hroom.symm)
    rw [List.take_of_length_le hle] at hout
    exact ⟨hopened, ⟨rows, hrows, hout⟩, hout ▸ hle⟩
  · rintro ⟨hopened, ⟨rows, hrows, rfl⟩, hroom⟩
    obtain ⟨dump, hdump, hcut⟩ := @getSockets_eq filter ifNames kernel rows hopened hrows
    rw [cut_of_le hroom] at hcut
    obtain ⟨hsockets, hwhole⟩ := Prod.mk.inj hcut
    exact ⟨dump, hdump, hwhole, hsockets⟩

end Netdiag.Collect
