import Netdiag.Collect.Selection
import Netdiag.Watch.Event
import Netdiag.Lib.Runs
import Mathlib.Data.List.AList

namespace Netdiag.Watch

/-!
# Watch — sockets by polling

`Daemon::watch_sockets` (`daemon/src/daemon.rs`): sockets have no multicast group, so the
loop dumps them again and again and reports the differences.

* `socketKey` — the cookie, or the inode where there is none: a socket's identity.
* `socketDiff` — the events between two dumps.
* `SocketWatch.step` — one poll, against whatever table the kernel has then.
* `Genuine` — an event says what happened to the *kernel's* table: a socket that
  disappeared is gone or no longer matches, one that appeared was not there.
* `socket_events_genuine` — so it is in every run no poll of which is cut at the limit.

The dump a poll works on may be cut at the limit, in an order the kernel chooses; the diff
takes a socket that was cut off for one that is gone.
-/

open Collect

/-! ### Events -/

/-- `Debug` of a `TcpState`. -/
def tcpStateDebug : TcpState → String
  | .unspecified => "Unspecified"
  | .established => "Established"
  | .synSent => "SynSent"
  | .synRecv => "SynRecv"
  | .finWait1 => "FinWait1"
  | .finWait2 => "FinWait2"
  | .timeWait => "TimeWait"
  | .close => "Close"
  | .closeWait => "CloseWait"
  | .lastAck => "LastAck"
  | .listen => "Listen"
  | .closing => "Closing"
  | .newSynRecv => "NewSynRecv"

/-- `correlate::describe_mark`. -/
def describeMark (mark : Nat) : String :=
  if mark = 0 then "0 (unmarked, uses the default network)"
  else
    let netId := Probe.netIdFromMark mark
    let notes :=
      (if netId ≠ 0 then [s!"netId {netId}"] else []) ++
      (if mark &&& (1 <<< 16) ≠ 0 then ["explicitly selected"] else []) ++
      (if mark &&& (1 <<< 17) ≠ 0 then ["protected from VPN"] else [])
    if notes.isEmpty then s!"0x{Probe.hex mark}"
    else s!"0x{Probe.hex mark} (" ++ ", ".intercalate notes ++ ")"

/-- The `NetworkEvent` with a `SocketEvent` that `emit_socket_event` sends. -/
structure SocketNotice where
  severity : Severity
  summary : String
  socket : InetSocket
  previousState : TcpState
  appeared : Bool
  disappeared : Bool
  deriving DecidableEq, Repr

/-- The event `emit_socket_event` builds. -/
def socketNotice (socket : InetSocket) (previousState : Option TcpState)
    (appeared disappeared : Bool) : SocketNotice :=
  let mark := if socket.hasMark then s!" mark {describeMark socket.mark}" else ""
  let ends := s!"{socket.localAddress.display}:{socket.localPort} -> " ++
    s!"{socket.remoteAddress.display}:{socket.remotePort} (uid {socket.uid}){mark}"
  let previous := previousState.getD .unspecified
  { severity := if socket.state = .synSent then .notice else .debug
    summary :=
      if disappeared then s!"socket closed: {ends}"
      else if appeared then s!"socket {tcpStateDebug socket.state}: {ends}"
      else s!"socket {tcpStateDebug previous} -> {tcpStateDebug socket.state}: {ends}"
    socket, previousState := previous, appeared, disappeared }

/-! ### The difference of two dumps -/

/-- The key a socket is filed under. -/
def socketKey (s : InetSocket) : Nat := if s.socketCookie ≠ 0 then s.socketCookie else s.inode

/-- The `HashMap`s `previous` and `current`. -/
abbrev SocketMap := AList (fun _ : Nat => InetSocket)

/-- The sockets of a dump under their keys, a later one in the place of an earlier one. -/
def currentSockets (sockets : List InetSocket) : SocketMap :=
  sockets.foldl (fun current s => current.insert (socketKey s) s) ∅

/-- The event for a socket of the new dump, if there is one. -/
def appearedOrChanged (previous : SocketMap) (key : Nat) (socket : InetSocket) :
    Option SocketNotice :=
  match previous.lookup key with
  | none => some (socketNotice socket none true false)
  | some old =>
    if old.state ≠ socket.state then some (socketNotice socket (some old.state) false false)
    else none

/-- The event for a socket of the old dump, if there is one. -/
def disappeared (current : SocketMap) (key : Nat) (socket : InetSocket) : Option SocketNotice :=
  if (current.lookup key).isNone then some (socketNotice socket none false true) else none

/-- The events of one pass.  The source goes through its maps in no particular order. -/
def socketDiff (previous current : SocketMap) : List SocketNotice :=
  current.entries.filterMap (fun x => appearedOrChanged previous x.1 x.2) ++
    previous.entries.filterMap (fun x => disappeared current x.1 x.2)

/-! ### The loop -/

/-- What one pass of the loop meets: the interface names, the kernel with whatever it answers,
    the table it has then, and the reply that fails, if one does. -/
structure Poll where
  ifNames : Except Ipc.Error (Nat → Option String)
  kernel : Kernel
  table : KernelTable
  failsAt : Option Nat

/-- An event sent, with the kernel's table at that poll and at the poll before. -/
structure Emitted where
  notice : SocketNotice
  before : Option KernelTable
  now : KernelTable

/-- `watch_sockets` between two polls; `outcome` is set when it has returned.  `log` and
    `last` are history: the events sent, and the table of the last poll. -/
structure SocketWatch where
  filter : SocketFilter
  previous : SocketMap
  firstPass : Bool
  sent : Nat
  outcome : Option Ipc.StreamOutcome
  log : List Emitted
  last : Option KernelTable

namespace SocketWatch

/-- The loop before its first poll. -/
def new (filter : SocketFilter) : SocketWatch :=
  { filter, previous := ∅, firstPass := true, sent := 0, outcome := none, log := [],
    last := none }

/-- How many of these events the loop counts as sent: not those of sockets that are gone. -/
def counted (events : List SocketNotice) : Nat :=
  (events.filter (fun e => !e.disappeared)).length

/-- The events of a pass over this dump: none on the first pass. -/
def events (w : SocketWatch) (current : SocketMap) : List SocketNotice :=
  if w.firstPass then [] else socketDiff w.previous current

/-- The log with these events sent. -/
def logged (w : SocketWatch) (p : Poll) (events : List SocketNotice) : List Emitted :=
  w.log ++ events.map (fun notice => { notice, before := w.last, now := p.table })

/-- One poll. -/
def step (w : SocketWatch) (p : Poll) : Option SocketWatch :=
  match w.outcome with
  | some _ => none
  | none =>
    match p.ifNames with
    -- The names of the interfaces are read first.
    | .error e => some { w with outcome := some (.failed e w.sent) }
    | .ok ifNames =>
      match getSockets w.filter ifNames p.kernel with
      | .error e => some { w with outcome := some (.failed e w.sent) }
      | .ok dump =>
        let current := currentSockets dump.sockets
        let events := w.events current
        -- The reply that fails, if it is one of this poll's.
        match p.failsAt.filter (fun n => n < events.length) with
        | some n =>
          let done := events.take n
          some { w with outcome := some (.done "client disconnected" (w.sent + counted done)),
                        log := w.logged p done }
        -- Only a poll that sent everything becomes the previous one.
        | none => some { w with previous := current, firstPass := false,
                                sent := w.sent + counted events, log := w.logged p events,
                                last := some p.table }

/-- A run of the loop for this filter whose polls all meet `ok`. -/
def Run (ok : SocketWatch → Poll → Prop) (filter : SocketFilter) (w : SocketWatch) : Prop :=
  Runs.Steps step ok (new filter) w

end SocketWatch

/-! ### What an event is to mean -/

/-- The key of a socket of the kernel. -/
def kernelKey (k : KernelSocket) : Nat :=
  if k.response.cookie ≠ 0 then k.response.cookie else k.response.inode

/-- The key of a socket is the kernel's. -/
theorem socketKey_toProto (k : KernelSocket) (ifNames : Nat → Option String) :
    socketKey (k.toProto ifNames) = kernelKey k := by
  have hheader := responseToProto_header k.response k.protocol ifNames
  simp only [InetSocket.header, Prod.mk.injEq] at hheader
  obtain ⟨_, _, _, _, hcookie, hinode, _⟩ := hheader
  simp only [socketKey, kernelKey, KernelSocket.toProto, hcookie, hinode]

/-- A socket of this key is in the table and matches the filter. -/
def HasMatching (filter : SocketFilter) (table : KernelTable) (key : Nat) : Prop :=
  ∃ k ∈ table.sockets, k.Satisfies filter ∧ kernelKey k = key

/-- The event says what happened to the kernel's table. -/
def Emitted.Genuine (filter : SocketFilter) (e : Emitted) : Prop :=
  (e.notice.disappeared = true → ¬ HasMatching filter e.now (socketKey e.notice.socket)) ∧
    (e.notice.appeared = true →
      ∃ t ∈ e.before, ¬ HasMatching filter t (socketKey e.notice.socket))

instance (filter : SocketFilter) (table : KernelTable) (key : Nat) :
    Decidable (HasMatching filter table key) := inferInstanceAs (Decidable (∃ _ ∈ _, _))

instance (filter : SocketFilter) (e : Emitted) : Decidable (e.Genuine filter) :=
  inferInstanceAs (Decidable (_ ∧ _))

/-- How many rows the dumps of this filter bring from the table, counted as often as they
    come. -/
def rowsFor (filter : SocketFilter) (table : KernelTable) : Nat :=
  ((dumpPairs filter).map (fun x =>
    ((table.sockets.filter (fun k => k.Answers (inetRequest filter x.1 x.2))).filter
      (fun k => k.Passes filter)).length)).sum

/-- The poll is not cut: where it gets a dump, the kernel has answered from its table, and the
    rows are within the limit.  A poll that gets none may fail as it likes. -/
def Uncut (w : SocketWatch) (p : Poll) : Prop :=
  ∀ ifNames dump, p.ifNames = .ok ifNames → getSockets w.filter ifNames p.kernel = .ok dump →
    p.kernel.Exact p.table ∧ rowsFor w.filter p.table ≤ w.filter.rows

/-! ### Dumps that are not cut -/

/-- A socket that satisfies the filter comes back from a dump, whatever else does. -/
theorem dumped_of_satisfies {filter : SocketFilter} {k : KernelSocket} (hk : k.Reported)
    (hsat : k.Satisfies filter) : k.Dumped filter := by
  obtain ⟨hprotocol, hfamily, hstate, hpasses⟩ := hsat
  refine ⟨mem_dumpPairs.mpr ⟨mem_wantedProtocols.mpr hprotocol, mem_wantedFamilies.mpr hfamily⟩,
    ?_, hpasses⟩
  cases k.protocol with
  | udp => exact mem_stateFlags_udp.mpr hk.1
  | tcp =>
    refine (mem_stateFlags_tcp hk.1 ?_).mpr hstate
    exact hstate.imp_right (fun hmem => ⟨_, hk.1, hmem⟩)

/-- The dump of a poll within the limit has every matching socket of the table. -/
theorem uncut_dump {filter : SocketFilter} {ifNames : Nat → Option String} {kernel : Kernel}
    {table : KernelTable} {dump : SocketDump} (hkernel : kernel.Exact table)
    (huncut : rowsFor filter table ≤ filter.rows)
    (hdump : getSockets filter ifNames kernel = .ok dump) :
    ∀ k ∈ table.sockets, k.Satisfies filter → k.toProto ifNames ∈ dump.sockets := by
  obtain ⟨rows, dump', hrows, hok, hcut⟩ := getSockets_exact filter ifNames hkernel
  obtain rfl : dump = dump' := by
    rw [hdump] at hok
    exact Except.ok.inj hok
  have hlength : ((dumpPairs filter).flatMap (passed filter rows)).length =
      rowsFor filter table := by
    rw [List.length_flatMap, rowsFor]
    refine congrArg List.sum (List.map_congr_left (fun x _ => ?_))
    exact ((hrows x).filter _).length_eq
  rw [cut_of_le (by rw [List.length_map, hlength]; exact huncut), Prod.mk.injEq] at hcut
  intro k hk hsat
  rw [hcut.1]
  refine List.mem_map_of_mem ((mem_collected hrows).mpr ⟨hk, ?_⟩)
  exact dumped_of_satisfies (table.reported k hk) hsat

/-! ### The maps -/

/-- Every socket is filed under its own key. -/
def Keyed (m : SocketMap) : Prop := ∀ key s, m.lookup key = some s → socketKey s = key

/-- Every matching socket of the table is in the map. -/
def Covers (filter : SocketFilter) (m : SocketMap) (table : KernelTable) : Prop :=
  ∀ k ∈ table.sockets, k.Satisfies filter → kernelKey k ∈ m

/-- A socket is entered under its own key. -/
theorem keyed_insert {m : SocketMap} (h : Keyed m) (s : InetSocket) :
    Keyed (m.insert (socketKey s) s) := by
  intro key s' hlookup
  by_cases hkey : key = socketKey s
  · subst hkey
    rw [AList.lookup_insert] at hlookup
    rw [Option.some.inj hlookup]
  · rw [AList.lookup_insert_ne hkey] at hlookup
    exact h key s' hlookup

/-- So are all the sockets of a dump. -/
theorem keyed_foldl (sockets : List InetSocket) {m : SocketMap} (h : Keyed m) :
    Keyed (sockets.foldl (fun current s => current.insert (socketKey s) s) m) := by
  induction sockets generalizing m with
  | nil => exact h
  | cons s sockets ih => exact ih (keyed_insert h s)

/-- The keys are those of the sockets, and what was there before. -/
theorem mem_foldl (sockets : List InetSocket) (m : SocketMap) (key : Nat) :
    key ∈ sockets.foldl (fun current s => current.insert (socketKey s) s) m ↔
      key ∈ m ∨ ∃ s ∈ sockets, socketKey s = key := by
  induction sockets generalizing m with
  | nil => simp
  | cons s sockets ih =>
    rw [List.foldl_cons, ih, AList.mem_insert]
    constructor
    · rintro ((hkey | hm) | ⟨s', hs', hkey⟩)
      · exact .inr ⟨s, List.mem_cons_self, hkey.symm⟩
      · exact .inl hm
      · exact .inr ⟨s', List.mem_cons_of_mem _ hs', hkey⟩
    · rintro (hm | ⟨s', hs', hkey⟩)
      · exact .inl (.inr hm)
      · rcases List.mem_cons.mp hs' with rfl | hs'
        · exact .inl (.inl hkey.symm)
        · exact .inr ⟨s', hs', hkey⟩

/-- Each socket of a poll stands under its own key. -/
theorem keyed_currentSockets (sockets : List InetSocket) : Keyed (currentSockets sockets) := by
  refine keyed_foldl sockets (fun key s h => ?_)
  rw [AList.lookup_empty] at h
  cases h

/-- Each socket of a poll has an entry under its key. -/
theorem mem_currentSockets {sockets : List InetSocket} {s : InetSocket} (hs : s ∈ sockets) :
    socketKey s ∈ currentSockets sockets :=
  (mem_foldl sockets ∅ _).mpr (.inr ⟨s, hs, rfl⟩)

/-- The events of a diff: a key that is new, a state that changed, a key that is gone. -/
theorem mem_socketDiff {previous current : SocketMap} {e : SocketNotice}
    (h : e ∈ socketDiff previous current) :
    (∃ key s, current.lookup key = some s ∧ key ∉ previous ∧
      e = socketNotice s none true false) ∨
    (∃ s state, e = socketNotice s (some state) false false) ∨
    (∃ key s, previous.lookup key = some s ∧ key ∉ current ∧
      e = socketNotice s none false true) := by
  rcases List.mem_append.mp h with h | h
  -- From the pass over what is there now.
  · obtain ⟨⟨key, s⟩, hentry, hevent⟩ := List.mem_filterMap.mp h
    have hlookup := AList.mem_lookup_iff.mpr hentry
    simp only [appearedOrChanged] at hevent
    split at hevent
    · rename_i hnone
      exact .inl ⟨key, s, hlookup, AList.lookup_eq_none.mp hnone, (Option.some.inj hevent).symm⟩
    · split at hevent
      · exact .inr (.inl ⟨s, _, (Option.some.inj hevent).symm⟩)
      · cases hevent
  -- From the pass over what was there before.
  · obtain ⟨⟨key, s⟩, hentry, hevent⟩ := List.mem_filterMap.mp h
    have hlookup := AList.mem_lookup_iff.mpr hentry
    simp only [disappeared] at hevent
    split at hevent
    · rename_i hnone
      have hgone : key ∉ current := AList.lookup_eq_none.mp (Option.isNone_iff_eq_none.mp hnone)
      exact .inr (.inr ⟨key, s, hlookup, hgone, (Option.some.inj hevent).symm⟩)
    · cases hevent

/-- The diff of two maps that cover their tables tells the truth about the tables. -/
theorem socketDiff_genuine {filter : SocketFilter} {previous current : SocketMap}
    {before now : KernelTable} (hprevious : Keyed previous) (hcurrent : Keyed current)
    (hbefore : Covers filter previous before) (hnow : Covers filter current now) :
    ∀ e ∈ socketDiff previous current,
      Emitted.Genuine filter { notice := e, before := some before, now := now } := by
  intro e he
  obtain ⟨key, s, hlookup, hnew, rfl⟩ | ⟨s, state, rfl⟩ | ⟨key, s, hlookup, hgone, rfl⟩ :=
    mem_socketDiff he
  · refine ⟨fun h => (by cases h), fun _ => ⟨before, rfl, ?_⟩⟩
    rintro ⟨k, hk, hsat, hkey⟩
    refine hnew ?_
    rw [← hcurrent key s hlookup]
    exact hkey ▸ hbefore k hk hsat
  · exact ⟨fun h => (by cases h), fun h => (by cases h)⟩
  · refine ⟨fun _ => ?_, fun h => by cases h⟩
    rintro ⟨k, hk, hsat, hkey⟩
    refine hgone ?_
    rw [← hprevious key s hlookup]
    exact hkey ▸ hnow k hk hsat

/-! ### Runs -/

/-- Inversion of `step`: the loop returned with an error, it returned while it sent the
    first events of a pass, or it sent them all. -/
theorem SocketWatch.step_cases {w w' : SocketWatch} {p : Poll} (h : w.step p = some w') :
    (∃ outcome, w' = { w with outcome := some outcome }) ∨
    ∃ ifNames dump, p.ifNames = .ok ifNames ∧ getSockets w.filter ifNames p.kernel = .ok dump ∧
      ((∃ n outcome, w' = { w with outcome := some outcome,
                                   log := w.logged p
                                    ((w.events (currentSockets dump.sockets)).take n) }) ∨
       ∃ sent, w' = { w with previous := currentSockets dump.sockets, firstPass := false,
                             sent := sent, last := some p.table,
                             log := w.logged p (w.events (currentSockets dump.sockets)) }) := by
  unfold SocketWatch.step at h
  split at h
  · cases h
  split at h
  · exact .inl ⟨_, (Option.some.inj h).symm⟩
  rename_i ifNames hnames
  split at h
  · exact .inl ⟨_, (Option.some.inj h).symm⟩
  rename_i dump hdump
  refine .inr ⟨ifNames, dump, hnames, hdump, ?_⟩
  simp only at h
  split at h
  · exact .inl ⟨_, _, (Option.some.inj h).symm⟩
  · exact .inr ⟨_, (Option.some.inj h).symm⟩

/-- The map of the last pass covers the table of the last poll, and all that was sent is
    genuine. -/
structure Truthful (w : SocketWatch) : Prop where
  keyed : Keyed w.previous
  last : w.firstPass = false → ∃ t, w.last = some t ∧ Covers w.filter w.previous t
  genuine : ∀ e ∈ w.log, e.Genuine w.filter

/-- The events of a pass over a dump that covers the poll's table are genuine. -/
theorem Truthful.events_genuine {w : SocketWatch} {p : Poll} {current : SocketMap}
    (h : Truthful w) (hcurrent : Keyed current) (hcovers : Covers w.filter current p.table) :
    ∀ e ∈ w.events current,
      Emitted.Genuine w.filter { notice := e, before := w.last, now := p.table } := by
  intro e he
  unfold SocketWatch.events at he
  split at he
  · cases he
  · rename_i hpass
    obtain ⟨t, hlast, hprevious⟩ := h.last (Bool.not_eq_true _ ▸ hpass)
    rw [hlast]
    exact socketDiff_genuine h.keyed hcurrent hprevious hcovers e he

/-- Logging genuine events keeps the log genuine. -/
theorem Truthful.logged {w : SocketWatch} {p : Poll} (h : Truthful w) {events : List SocketNotice}
    (hevents : ∀ e ∈ events,
      Emitted.Genuine w.filter { notice := e, before := w.last, now := p.table }) :
    ∀ e ∈ w.logged p events, e.Genuine w.filter := by
  intro e he
  rcases List.mem_append.mp he with he | he
  · exact h.genuine e he
  · obtain ⟨notice, hnotice, rfl⟩ := List.mem_map.mp he
    exact hevents notice hnotice

/-- One poll that is not cut. -/
theorem Truthful.step {w w' : SocketWatch} {p : Poll} (h : Truthful w) (huncut : Uncut w p)
    (hstep : w.step p = some w') : Truthful w' := by
  obtain ⟨outcome, rfl⟩ | ⟨ifNames, dump, hnames, hdump, hcases⟩ := SocketWatch.step_cases hstep
  · exact ⟨h.keyed, h.last, h.genuine⟩
  -- there is a dump, so the kernel has answered from its table within the limit
  obtain ⟨hexact, hrows⟩ := huncut ifNames dump hnames hdump
  have hkeyed := keyed_currentSockets dump.sockets
  have hcovers : Covers w.filter (currentSockets dump.sockets) p.table := by
    intro k hk hsat
    rw [← socketKey_toProto k ifNames]
    exact mem_currentSockets (uncut_dump hexact hrows hdump k hk hsat)
  have hgenuine := h.events_genuine hkeyed hcovers
  rcases hcases with ⟨n, outcome, rfl⟩ | ⟨sent, rfl⟩
  · exact ⟨h.keyed, h.last, h.logged (fun e he => hgenuine e (List.mem_of_mem_take he))⟩
  · exact ⟨hkeyed, fun _ => ⟨p.table, rfl, hcovers⟩, h.logged hgenuine⟩

/-- A new loop has said nothing that could be false. -/
theorem truthful_new (filter : SocketFilter) : Truthful (.new filter) where
  keyed := keyed_currentSockets []
  last h := by cases h
  genuine e he := by cases he

/-- A run keeps its filter. -/
theorem SocketWatch.Run.filter_eq {ok : SocketWatch → Poll → Prop} {filter : SocketFilter}
    {w : SocketWatch} (hrun : SocketWatch.Run ok filter w) : w.filter = filter := by
  let Kept : SocketWatch → Prop := fun w => w.filter = filter
  suffices h : Kept w from h
  refine Runs.Steps.invariant hrun rfl (fun w p w' hfilter _ hstep => ?_)
  obtain ⟨outcome, rfl⟩ | ⟨ifNames, dump, _, _, ⟨n, outcome, rfl⟩ | ⟨sent, rfl⟩⟩ :=
    SocketWatch.step_cases hstep
  · exact hfilter
  · exact hfilter
  · exact hfilter

/-- **Socket events.**  In every state of every run of `watch_sockets` no poll of which is
    cut at the limit, for any filter and any tables, and whichever polls fail, every event that
    was sent says what happened to the kernel's table. -/
theorem socket_events_genuine (filter : SocketFilter) (w : SocketWatch)
    (hrun : SocketWatch.Run Uncut filter w) : ∀ e ∈ w.log, e.Genuine filter := by
  have htruthful : Truthful w :=
    Runs.Steps.invariant hrun (truthful_new filter) (fun _ _ _ h hok hstep => h.step hok hstep)
  rw [← hrun.filter_eq]
  exact htruthful.genuine

/-- A TCP connection with this cookie. -/
def connection (cookie : Nat) : KernelSocket where
  protocol := .tcp
  response := { family := .inet, state := 1, cookie }

/-- Two connections, of which the kernel may list either first. -/
def twoConnections : KernelTable where
  sockets := [connection 1, connection 2]
  nodup := by decide
  reported := by decide

/-- A poll of the two connections in this order. -/
def pollTwo (ks : List KernelSocket) : Poll where
  ifNames := .ok (fun _ => none)
  kernel := .listing ks
  table := twoConnections
  failsAt := none

/-- A poll of the first connection alone. -/
def pollOne : Poll where
  ifNames := .ok (fun _ => none)
  kernel := .listing [connection 1]
  table := .single (connection 1) (by decide)
  failsAt := none

/-- A poll whose diag socket does not open. -/
def pollRefused : Poll :=
  { pollOne with kernel := { opened := .error { code := .kernel, message := "EPERM" }
                             dump := fun _ => .ok [] } }

/-- A connection appears and is gone again; then the kernel refuses. -/
theorem socket_events_genuine_second :
    ∃ w, SocketWatch.Run Uncut {} w ∧ w.log.map (fun e => e.notice.appeared) = [true, false] ∧
      w.outcome.isSome = true ∧ ∀ e ∈ w.log, e.Genuine {} := by
  obtain ⟨w, hrun, hlog, hended⟩ : ∃ w, SocketWatch.Run Uncut {} w ∧
      w.log.map (fun e => e.notice.appeared) = [true, false] ∧ w.outcome.isSome = true := by
    refine Runs.Steps.exists_of_exec_mem (fun w p => rowsFor w.filter p.table ≤ w.filter.rows)
      [pollOne, pollTwo [connection 1, connection 2], pollOne, pollRefused] ?_ _
      (by decide +kernel)
    -- the polls that get a dump are answered from their tables
    intro p hp w hrows ifNames dump _ hdump
    refine ⟨?_, hrows⟩
    simp only [List.mem_cons, List.not_mem_nil, or_false] at hp
    rcases hp with rfl | rfl | rfl | rfl
    · exact listing_exact (.refl _)
    · exact listing_exact (.refl _)
    · exact listing_exact (.refl _)
    · cases hdump
  exact ⟨w, hrun, hlog, hended, socket_events_genuine {} w hrun⟩

/-- With a limit of one, the kernel lists the other connection first at the second poll:
    the first is reported as closed, and it is still there. -/
theorem reordered_not_genuine :
    ¬ ∀ filter w, SocketWatch.Run (fun _ p => p.kernel.Exact p.table) filter w →
      ∀ e ∈ w.log, e.Genuine filter := by
  intro hall
  obtain ⟨w, hrun, hbad⟩ : ∃ w,
      SocketWatch.Run (fun _ p => p.kernel.Exact p.table) { limit := 1 } w ∧
        ¬ ∀ e ∈ w.log, e.Genuine { limit := 1 } := by
    refine Runs.Steps.exists_of_exec_mem (fun _ _ => True)
      [pollTwo [connection 1, connection 2], pollTwo [connection 2, connection 1]] ?_ _
      (by decide +kernel)
    intro p hp w _
    simp only [List.mem_cons, List.not_mem_nil, or_false] at hp
    rcases hp with rfl | rfl
    · exact listing_exact (.refl _)
    · exact listing_exact (.swap _ _ _)
  exact hbad (hall _ w hrun)

end Netdiag.Watch
