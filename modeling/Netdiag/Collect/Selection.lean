import Netdiag.Collect.Sockets
import Mathlib.Algebra.Ring.Nat

namespace Netdiag.Collect

/-!
# Collect — which sockets a filter selects

What `get_sockets` returns against what a `SocketFilter` asks for: "empty repeated fields
mean any", so every non-empty one, and every port that is not zero, is a selector.

* `KernelTable` — the sockets the kernel has; `Kernel.Exact` — it answers every dump with
  exactly the sockets of that family, protocol and state mask, in an order of its own.
* `KernelSocket.Satisfies` — a socket meets every selector that is present.
* `Correct` — the dump is a selection of the table: satisfying sockets only, each once, all
  of them up to the limit.
* `KernelSocket.Dumped` — a socket comes back from one of the dumps and passes.
* `FilterSound` — a condition on the filter; `getSockets_correct_iff` — the dump is correct
  for every table if and only if it holds.
-/

/-! ### The kernel's table -/

/-- A socket of the kernel: its protocol, and the row it is reported with. -/
structure KernelSocket where
  protocol : Protocol
  response : InetResponse
  deriving DecidableEq, Repr

namespace KernelSocket

/-- The state the row reports. -/
def state (k : KernelSocket) : TcpState := tcpStateToProto k.response.state

/-- The states `inet_diag` reports: one with a flag (a request socket shows as `SYN_RECV`),
    and for UDP either `ESTABLISHED` or `CLOSE`. -/
def Reported (k : KernelSocket) : Prop :=
  k.state ∈ allStates ∧ (k.protocol = .udp → k.state = .established ∨ k.state = .close)

instance (k : KernelSocket) : Decidable k.Reported := inferInstanceAs (Decidable (_ ∧ _))

/-- The socket belongs to the dump a request asks for. -/
def Answers (k : KernelSocket) (request : InetRequest) : Prop :=
  k.protocol = request.protocol ∧ k.response.family = request.family ∧ k.state ∈ request.states

instance (k : KernelSocket) (request : InetRequest) : Decidable (k.Answers request) :=
  inferInstanceAs (Decidable (_ ∧ _ ∧ _))

/-- The `Socket` the daemon makes of it. -/
def toProto (k : KernelSocket) (ifNames : Nat → Option String) : InetSocket :=
  responseToProto k.response k.protocol ifNames

/-- The socket meets every selector that is present. -/
def Satisfies (k : KernelSocket) (filter : SocketFilter) : Prop :=
  (filter.protocols = [] ∨ k.protocol.number ∈ filter.protocols) ∧
  (filter.families = [] ∨ k.response.family.number ∈ filter.families) ∧
  (filter.states = [] ∨ tcpStateNumber k.state ∈ filter.states) ∧
  (filter.uids = [] ∨ k.response.uid ∈ filter.uids) ∧
  (filter.interfaceIndexes = [] ∨ k.response.interfaceId ∈ filter.interfaceIndexes) ∧
  (filter.localPort = 0 ∨ k.response.sourcePort.toNat = filter.localPort) ∧
  (filter.remotePort = 0 ∨ k.response.destinationPort.toNat = filter.remotePort)

instance (k : KernelSocket) (filter : SocketFilter) : Decidable (k.Satisfies filter) :=
  inferInstanceAs (Decidable (_ ∧ _ ∧ _ ∧ _ ∧ _ ∧ _ ∧ _))

end KernelSocket

/-- The sockets of the kernel at one moment, no two of them the same. -/
structure KernelTable where
  sockets : List KernelSocket
  nodup : sockets.Nodup
  reported : ∀ k ∈ sockets, k.Reported

/-- The kernel answers every dump with exactly the sockets it asks for. -/
def Kernel.Exact (kernel : Kernel) (table : KernelTable) : Prop :=
  kernel.opened = .ok () ∧
    ∀ request, ∃ ks : List KernelSocket,
      ks.Perm (table.sockets.filter (fun k => k.Answers request)) ∧
        kernel.dump request = .ok (ks.map KernelSocket.response)

/-- The sockets `sel` are what the filter asks for, and the dump reports them: satisfying
    sockets, each once; all of them if they fit the limit, else as many as fit. -/
structure IsSelection (filter : SocketFilter) (ifNames : Nat → Option String)
    (table : KernelTable) (dump : SocketDump) (sel : List KernelSocket) : Prop where
  nodup : sel.Nodup
  selected : ∀ k ∈ sel, k ∈ table.sockets ∧ k.Satisfies filter
  sockets : dump.sockets = sel.map (·.toProto ifNames)
  complete : (table.sockets.filter (fun k => k.Satisfies filter)).length ≤ filter.rows →
    (∀ k ∈ table.sockets, k.Satisfies filter → k ∈ sel) ∧ dump.truncated = false
  full : filter.rows < (table.sockets.filter (fun k => k.Satisfies filter)).length →
    sel.length = filter.rows ∧ dump.truncated = true

/-- The dump reports what the filter asks for. -/
def Correct (filter : SocketFilter) (ifNames : Nat → Option String) (table : KernelTable)
    (dump : SocketDump) : Prop :=
  ∃ sel, IsSelection filter ifNames table dump sel

/-! ### What comes back -/

/-- The fields of a `Socket` that are filled from the header of its row. -/
def InetSocket.header (s : InetSocket) : Nat × Nat × Nat × Nat × Nat × Nat × TcpState :=
  (s.uid, s.interfaceIndex, s.localPort, s.remotePort, s.socketCookie, s.inode, s.state)

/-- No attribute of a row touches what the filter looks at. -/
theorem withNla_header (s : InetSocket) (nla : Nla) : (s.withNla nla).header = s.header := by
  cases nla <;> rfl

/-- Nor do any number of them. -/
theorem foldl_withNla_header (nlas : List Nla) (s : InetSocket) :
    (nlas.foldl InetSocket.withNla s).header = s.header := by
  induction nlas generalizing s with
  | nil => rfl
  | cons nla nlas ih => rw [List.foldl_cons, ih, withNla_header]

/-- Nor does the timer. -/
theorem withTimer_header (s : InetSocket) (timer : Timer) :
    (s.withTimer timer).header = s.header := by
  cases timer <;> rfl

/-- The timer and the attributes of a row do not touch these fields. -/
theorem responseToProto_header (response : InetResponse) (protocol : Protocol)
    (ifNames : Nat → Option String) :
    (responseToProto response protocol ifNames).header =
      (response.uid, response.interfaceId, response.sourcePort.toNat,
        response.destinationPort.toNat, response.cookie, response.inode,
        tcpStateToProto response.state) := by
  unfold responseToProto
  rw [foldl_withNla_header]
  split
  · rw [withTimer_header]
    rfl
  · rfl

/-- The selectors `passes_filter` decides. -/
def KernelSocket.Passes (k : KernelSocket) (filter : SocketFilter) : Prop :=
  (filter.uids = [] ∨ k.response.uid ∈ filter.uids) ∧
  (filter.interfaceIndexes = [] ∨ k.response.interfaceId ∈ filter.interfaceIndexes) ∧
  (filter.localPort = 0 ∨ k.response.sourcePort.toNat = filter.localPort) ∧
  (filter.remotePort = 0 ∨ k.response.destinationPort.toNat = filter.remotePort)

instance (k : KernelSocket) (filter : SocketFilter) : Decidable (k.Passes filter) :=
  inferInstanceAs (Decidable (_ ∧ _ ∧ _ ∧ _))

/-- Each part of the filter is empty or met. -/
theorem passesFilter_iff (s : InetSocket) (filter : SocketFilter) :
    passesFilter s filter = true ↔
      (filter.uids = [] ∨ s.uid ∈ filter.uids) ∧
      (filter.interfaceIndexes = [] ∨ s.interfaceIndex ∈ filter.interfaceIndexes) ∧
      (filter.localPort = 0 ∨ s.localPort = filter.localPort) ∧
      (filter.remotePort = 0 ∨ s.remotePort = filter.remotePort) := by
  unfold passesFilter
  grind

/-- The filter decides on a row what it says of the kernel's socket. -/
theorem passesFilter_toProto (k : KernelSocket) (filter : SocketFilter)
    (ifNames : Nat → Option String) :
    passesFilter (k.toProto ifNames) filter = decide (k.Passes filter) := by
  have hheader := responseToProto_header k.response k.protocol ifNames
  simp only [InetSocket.header, Prod.mk.injEq] at hheader
  obtain ⟨huid, hif, hlocal, hremote, _⟩ := hheader
  rw [Bool.eq_iff_iff, passesFilter_iff, decide_eq_true_iff]
  simp only [KernelSocket.toProto, KernelSocket.Passes, huid, hif, hlocal, hremote]

/-- No protocols at all stand for every protocol. -/
theorem mem_wantedProtocols {filter : SocketFilter} {p : Protocol} :
    p ∈ wantedProtocols filter ↔ filter.protocols = [] ∨ p.number ∈ filter.protocols := by
  unfold wantedProtocols
  cases p <;> grind [Protocol.number]

/-- No families at all stand for every family. -/
theorem mem_wantedFamilies {filter : SocketFilter} {f : Family} :
    f ∈ wantedFamilies filter ↔ filter.families = [] ∨ f.number ∈ filter.families := by
  unfold wantedFamilies
  cases f <;> grind [Family.number]

/-- A dump is made for every wanted protocol and family. -/
theorem mem_dumpPairs {filter : SocketFilter} {x : Protocol × Family} :
    x ∈ dumpPairs filter ↔ x.1 ∈ wantedProtocols filter ∧ x.2 ∈ wantedFamilies filter := by
  obtain ⟨p, f⟩ := x
  simp [dumpPairs]

/-- The socket comes back from a dump and passes. -/
def KernelSocket.Dumped (k : KernelSocket) (filter : SocketFilter) : Prop :=
  (k.protocol, k.response.family) ∈ dumpPairs filter ∧
    k.state ∈ stateFlags filter k.protocol ∧ k.Passes filter

instance (k : KernelSocket) (filter : SocketFilter) : Decidable (k.Dumped filter) :=
  inferInstanceAs (Decidable (_ ∧ _ ∧ _))

section Dumps

variable {filter : SocketFilter} {ifNames : Nat → Option String} {kernel : Kernel}
  {table : KernelTable}

/-- The sockets of one dump that pass, in the order `rows` has them. -/
def passed (filter : SocketFilter) (rows : Protocol × Family → List KernelSocket)
    (x : Protocol × Family) : List KernelSocket :=
  (rows x).filter (fun k => k.Passes filter)

/-- What the rows of one dump become. -/
theorem passing_map (protocol : Protocol) (ks : List KernelSocket)
    (hks : ∀ k ∈ ks, k.protocol = protocol) :
    passing filter ifNames protocol (ks.map KernelSocket.response) =
      (ks.filter (fun k => k.Passes filter)).map (·.toProto ifNames) := by
  induction ks with
  | nil => rfl
  | cons k ks ih =>
    have hk : k.toProto ifNames = responseToProto k.response protocol ifNames := by
      rw [KernelSocket.toProto, hks k List.mem_cons_self]
    have ih := ih (fun k hk => hks k (List.mem_cons_of_mem _ hk))
    have hpass := passesFilter_toProto k filter ifNames
    simp only [passing, List.map_cons, ← hk] at ih ⊢
    by_cases h : k.Passes filter
    · rw [List.filter_cons_of_pos (by simpa [h] using hpass),
        List.filter_cons_of_pos (by simpa using h), List.map_cons, ih]
    · rw [List.filter_cons_of_neg (by simpa [h] using hpass),
        List.filter_cons_of_neg (by simpa using h), ih]

/-- The rows an exact kernel answers `get_sockets` with, and the dump made of them. -/
theorem getSockets_exact (filter : SocketFilter) (ifNames : Nat → Option String)
    (hkernel : kernel.Exact table) :
    ∃ (rows : Protocol × Family → List KernelSocket) (dump : SocketDump),
      (∀ x, (rows x).Perm
        (table.sockets.filter (fun k => k.Answers (inetRequest filter x.1 x.2)))) ∧
      getSockets filter ifNames kernel = .ok dump ∧
      (dump.sockets, dump.truncated) =
        filter.cut (((dumpPairs filter).flatMap (passed filter rows)).map (·.toProto ifNames)) := by
  obtain ⟨hopened, hdumps⟩ := hkernel
  choose ks hperm hdump using hdumps
  let rows : Protocol × Family → List KernelSocket := fun x => ks (inetRequest filter x.1 x.2)
  have hprotocol : ∀ x, ∀ k ∈ rows x, k.protocol = x.1 := by
    intro x k hk
    have hmem := (hperm (inetRequest filter x.1 x.2)).subset hk
    exact (of_decide_eq_true (List.mem_filter.mp hmem).2).1
  obtain ⟨dump, hok, hcut⟩ :=
    getSockets_eq (fun x => (rows x).map KernelSocket.response) hopened (fun x _ => hdump _)
  refine ⟨rows, dump, fun x => hperm _, hok, ?_⟩
  rw [hcut, List.map_flatMap]
  congr 1
  refine List.flatMap_congr (fun x _ => ?_)
  exact passing_map x.1 (rows x) (hprotocol x)

/-- The sockets that pass in some dump are the dumped sockets of the table. -/
theorem mem_collected {rows : Protocol × Family → List KernelSocket}
    (hrows : ∀ x, (rows x).Perm
      (table.sockets.filter (fun k => k.Answers (inetRequest filter x.1 x.2))))
    {k : KernelSocket} :
    k ∈ (dumpPairs filter).flatMap (passed filter rows) ↔
      k ∈ table.sockets ∧ k.Dumped filter := by
  simp only [List.mem_flatMap, passed, List.mem_filter, (hrows _).mem_iff, decide_eq_true_iff]
  constructor
  · rintro ⟨x, hx, ⟨hmem, hprotocol, hfamily, hstate⟩, hpasses⟩
    obtain rfl : x = (k.protocol, k.response.family) := Prod.ext hprotocol.symm hfamily.symm
    exact ⟨hmem, hx, hstate, hpasses⟩
  · rintro ⟨hmem, hx, hstate, hpasses⟩
    exact ⟨_, hx, ⟨hmem, rfl, rfl, hstate⟩, hpasses⟩

/-- Dumps that are made once each do not report a socket twice. -/
theorem nodup_collected {rows : Protocol × Family → List KernelSocket}
    (hrows : ∀ x, (rows x).Perm
      (table.sockets.filter (fun k => k.Answers (inetRequest filter x.1 x.2))))
    (hpairs : (dumpPairs filter).Nodup) :
    ((dumpPairs filter).flatMap (passed filter rows)).Nodup := by
  have hmem : ∀ x k, k ∈ passed filter rows x → (k.protocol, k.response.family) = x := by
    intro x k hk
    have hans := (hrows x).subset (List.mem_filter.mp hk).1
    obtain ⟨hprotocol, hfamily, _⟩ := of_decide_eq_true (List.mem_filter.mp hans).2
    exact Prod.ext hprotocol hfamily
  refine List.nodup_flatMap.mpr ⟨fun x _ => ?_, ?_⟩
  · exact ((hrows x).nodup_iff.mpr (table.nodup.filter _)).filter _
  · refine hpairs.imp (fun {x y} hne k hx hy => hne ?_)
    rw [← hmem x k hx, ← hmem y k hy]

/-- If the sockets dumped are those the filter asks for, and no dump is made twice unless
    there is nothing to dump, the result is correct. -/
theorem correct_of_dumped (hkernel : kernel.Exact table)
    (hsame : ∀ k : KernelSocket, k.Reported → (k.Dumped filter ↔ k.Satisfies filter))
    (hpairs : (dumpPairs filter).Nodup ∨ ∀ k : KernelSocket, ¬ k.Dumped filter) :
    ∃ dump, getSockets filter ifNames kernel = .ok dump ∧ Correct filter ifNames table dump := by
  obtain ⟨rows, dump, hrows, hok, hcut⟩ := getSockets_exact filter ifNames hkernel
  generalize hall : (dumpPairs filter).flatMap (passed filter rows) = all at hcut
  have hmem : ∀ k, k ∈ all ↔ k ∈ table.sockets ∧ k.Satisfies filter := by
    intro k
    rw [← hall, mem_collected hrows]
    exact and_congr_right (fun hk => hsame k (table.reported k hk))
  -- No socket is collected twice: every pair is dumped once, or nothing is dumped.
  have hnodup : all.Nodup := by
    rcases hpairs with hpairs | hnone
    · exact hall ▸ nodup_collected hrows hpairs
    · have hnil : all = [] := by
        refine List.eq_nil_iff_forall_not_mem.mpr (fun k hk => hnone k ?_)
        rw [← hall] at hk
        exact ((mem_collected hrows).mp hk).2
      rw [hnil]
      exact .nil
  have hcount : (table.sockets.filter (fun k => k.Satisfies filter)).length = all.length := by
    refine List.Perm.length_eq ((List.perm_ext_iff_of_nodup (table.nodup.filter _) hnodup).mpr ?_)
    intro k
    rw [hmem k, List.mem_filter, decide_eq_true_iff]
  simp only [SocketFilter.cut, Prod.mk.injEq, List.length_map, ← List.map_take] at hcut
  obtain ⟨hsockets, htruncated⟩ := hcut
  -- The selection is what the limit leaves of them.
  refine ⟨dump, hok, all.take filter.rows, hnodup.sublist (List.take_sublist _ _), ?_, hsockets,
    ?_, ?_⟩
  · intro k hk
    exact (hmem k).mp (List.mem_of_mem_take hk)
  · intro hfits
    rw [hcount] at hfits
    rw [htruncated, List.take_of_length_le hfits]
    exact ⟨fun k hk hsat => (hmem k).mpr ⟨hk, hsat⟩, decide_eq_false (Nat.not_lt.mpr hfits)⟩
  · intro hmore
    rw [hcount] at hmore
    rw [htruncated]
    exact ⟨List.length_take_of_le (Nat.le_of_lt hmore), decide_eq_true hmore⟩

end Dumps

/-! ### One socket alone -/

/-- A table of one socket. -/
def KernelTable.single (k : KernelSocket) (hk : k.Reported) : KernelTable where
  sockets := [k]
  nodup := List.nodup_singleton k
  reported := by
    intro x hx
    rw [List.mem_singleton.mp hx]
    exact hk

/-- A kernel that has these sockets and lists them in this order. -/
def Kernel.listing (ks : List KernelSocket) : Kernel where
  opened := .ok ()
  dump request := .ok ((ks.filter (fun k => k.Answers request)).map KernelSocket.response)

/-- A kernel that lists the sockets of a table is exact about it. -/
theorem listing_exact {ks : List KernelSocket} {table : KernelTable}
    (h : ks.Perm table.sockets) : (Kernel.listing ks).Exact table :=
  ⟨rfl, fun _ => ⟨_, h.filter _, rfl⟩⟩

/-- So is one that lists the only socket there is. -/
theorem single_exact (k : KernelSocket) (hk : k.Reported) :
    (Kernel.listing [k]).Exact (.single k hk) := listing_exact (.refl _)

/-- Going through `l` and taking `b` at every `a`. -/
theorem flatMap_ite_eq_replicate {α β : Type} [BEq α] [LawfulBEq α] (a : α) (b : β)
    (l : List α) :
    l.flatMap (fun x => if x == a then [b] else []) = List.replicate (l.count a) b := by
  induction l with
  | nil => rfl
  | cons x l ih =>
    rw [List.flatMap_cons, ih, List.count_cons]
    cases x == a with
    | true => rfl
    | false => rfl

/-- Some row is always allowed. -/
theorem rows_pos (filter : SocketFilter) : 0 < filter.rows := by
  unfold SocketFilter.rows defaultSocketLimit
  split <;> omega

/-- Every dump for its protocol and family brings the only socket again. -/
theorem single_collected {filter : SocketFilter} {k : KernelSocket} (hk : k.Reported)
    (hdumped : k.Dumped filter) {rows : Protocol × Family → List KernelSocket}
    (hrows : ∀ x, (rows x).Perm ((KernelTable.single k hk).sockets.filter
      (fun k => k.Answers (inetRequest filter x.1 x.2)))) :
    (dumpPairs filter).flatMap (passed filter rows) =
      List.replicate ((dumpPairs filter).count (k.protocol, k.response.family)) k := by
  obtain ⟨_, hstate, hpasses⟩ := hdumped
  rw [← flatMap_ite_eq_replicate]
  refine List.flatMap_congr (fun x _ => ?_)
  -- The socket answers the dumps of its own pair and no other.
  by_cases hx : x = (k.protocol, k.response.family)
  · have hans : k.Answers (inetRequest filter x.1 x.2) := by
      rw [hx]
      exact ⟨rfl, rfl, hstate⟩
    have hrow : rows x = [k] := by
      have hperm := hrows x
      rw [KernelTable.single, List.filter_cons_of_pos (by simpa using hans),
        List.filter_nil] at hperm
      exact List.perm_singleton.mp hperm
    rw [passed, hrow]
    simp [hpasses, hx]
  · have hans : ¬ k.Answers (inetRequest filter x.1 x.2) :=
      fun h => hx (Prod.ext h.1.symm h.2.1.symm)
    have hrow : rows x = [] := by
      have hperm := hrows x
      rw [KernelTable.single, List.filter_cons_of_neg (by simpa using hans),
        List.filter_nil] at hperm
      exact List.perm_nil.mp hperm
    simp [passed, hrow, hx]

/-- If the dump of one dumped socket is correct, the socket satisfies the filter and only
    one dump was made for it. -/
theorem single_of_correct {filter : SocketFilter} {ifNames : Nat → Option String}
    {k : KernelSocket} (hk : k.Reported) (hdumped : k.Dumped filter)
    (hcorrect : ∃ dump, getSockets filter ifNames (.listing [k]) = .ok dump ∧
      Correct filter ifNames (.single k hk) dump) :
    k.Satisfies filter ∧ (dumpPairs filter).count (k.protocol, k.response.family) = 1 := by
  obtain ⟨dump, hok, sel, hsel⟩ := hcorrect
  obtain ⟨rows, dump', hrows, hok', hcut⟩ := getSockets_exact filter ifNames (single_exact k hk)
  obtain rfl : dump = dump' := by
    rw [hok] at hok'
    exact Except.ok.inj hok'
  have hpos : 0 < (dumpPairs filter).count (k.protocol, k.response.family) :=
    List.count_pos_iff.mpr hdumped.1
  have hlimit := rows_pos filter
  rw [single_collected hk hdumped hrows] at hcut
  generalize (dumpPairs filter).count (k.protocol, k.response.family) = n at hcut hpos ⊢
  simp only [SocketFilter.cut, Prod.mk.injEq, List.length_replicate, List.map_replicate,
    List.take_replicate] at hcut
  obtain ⟨hsockets, htruncated⟩ := hcut
  have hlength : sel.length = min filter.rows n := by
    rw [hsel.sockets] at hsockets
    simpa using congrArg List.length hsockets
  have hone : ∀ x ∈ sel, x = k := fun x hx => List.mem_singleton.mp (hsel.selected x hx).1
  -- Something is selected, and there is only this socket to select.
  have hsat : k.Satisfies filter := by
    have hne : 0 < sel.length := by omega
    obtain ⟨x, hx⟩ := List.exists_mem_of_length_pos hne
    exact hone x hx ▸ (hsel.selected x hx).2
  -- And it is selected once, so it was dumped once.
  have hle : sel.length ≤ 1 :=
    (List.subperm_of_subset hsel.nodup
      (fun x hx => List.mem_singleton.mpr (hone x hx) : sel ⊆ [k])).length_le
  have hfits : ((KernelTable.single k hk).sockets.filter
      (fun k => k.Satisfies filter)).length ≤ filter.rows :=
    Nat.le_trans (List.length_filter_le _ _) hlimit
  have hnot : ¬ filter.rows < n := by
    rw [(hsel.complete hfits).2] at htruncated
    exact of_decide_eq_false htruncated.symm
  exact ⟨hsat, by omega⟩

/-! ### The condition on the filter -/

/-- The filter asks for no socket there can be: no protocol or no family that is known, or
    a port of more than 16 bits. -/
def AsksForNothing (filter : SocketFilter) : Prop :=
  wantedProtocols filter = [] ∨ wantedFamilies filter = [] ∨ 2 ^ 16 ≤ filter.localPort ∨
    2 ^ 16 ≤ filter.remotePort

/-- The filter names every protocol and family once; if it has states, then with TCP at
    least one that has a flag, and with UDP both states of a UDP socket. -/
def FilterSound (filter : SocketFilter) : Prop :=
  AsksForNothing filter ∨
    ((wantedProtocols filter).Nodup ∧ (wantedFamilies filter).Nodup ∧
      (Protocol.tcp ∈ wantedProtocols filter →
        filter.states = [] ∨ ∃ state ∈ allStates, tcpStateNumber state ∈ filter.states) ∧
      (Protocol.udp ∈ wantedProtocols filter →
        filter.states = [] ∨ (tcpStateNumber .established ∈ filter.states ∧
          tcpStateNumber .close ∈ filter.states)))

variable {filter : SocketFilter}

/-- UDP is asked for in every state. -/
theorem mem_stateFlags_udp {state : TcpState} :
    state ∈ stateFlags filter .udp ↔ state ∈ allStates := by
  simp [stateFlags]

/-- With a state in the list that has a flag, the mask is the list. -/
theorem mem_stateFlags_tcp {state : TcpState} (hstate : state ∈ allStates)
    (hlisted : filter.states = [] ∨ ∃ s ∈ allStates, tcpStateNumber s ∈ filter.states) :
    state ∈ stateFlags filter .tcp ↔
      filter.states = [] ∨ tcpStateNumber state ∈ filter.states := by
  unfold stateFlags
  rcases hlisted with hnil | ⟨s, hs, hmem⟩
  · simp [hnil, hstate]
  · have hne : filter.states ≠ [] := List.ne_nil_of_mem hmem
    have hflags : ¬ (filter.states.flatMap stateFlag).isEmpty = true := by
      rw [List.isEmpty_iff]
      have hflag : s ∈ stateFlag (tcpStateNumber s) := by simp [stateFlag, hs]
      exact List.ne_nil_of_mem (List.mem_flatMap.mpr ⟨_, hmem, hflag⟩)
    simp [hne, hflags, stateFlag, hstate]

/-- Without one, the mask is everything. -/
theorem mem_stateFlags_tcp_of_none {state : TcpState} (hstate : state ∈ allStates)
    (hnone : ¬ ∃ s ∈ allStates, tcpStateNumber s ∈ filter.states) :
    state ∈ stateFlags filter .tcp := by
  have hflags : filter.states.flatMap stateFlag = [] := by
    refine List.flatMap_eq_nil_iff.mpr (fun n hn => ?_)
    refine List.filter_eq_nil_iff.mpr (fun s hs heq => hnone ⟨s, hs, ?_⟩)
    rw [of_decide_eq_true heq]
    exact hn
  simp [stateFlags, hflags, hstate]

/-- What a filter that asks for nothing gets. -/
theorem AsksForNothing.none (h : AsksForNothing filter) (k : KernelSocket) :
    ¬ k.Dumped filter ∧ ¬ k.Satisfies filter := by
  have hports := k.response.sourcePort.isLt
  have hports' := k.response.destinationPort.isLt
  constructor
  · rintro ⟨hpair, _, _, _, hlocal, hremote⟩
    obtain ⟨hprotocol, hfamily⟩ := mem_dumpPairs.mp hpair
    -- No protocol, no family, or a port out of range.
    rcases h with h | h | h | h
    · rw [h] at hprotocol
      cases hprotocol
    · rw [h] at hfamily
      cases hfamily
    · omega
    · omega
  · rintro ⟨hprotocol, hfamily, _, _, _, hlocal, hremote⟩
    rcases h with h | h | h | h
    · have := mem_wantedProtocols.mpr hprotocol
      rw [h] at this
      cases this
    · have := mem_wantedFamilies.mpr hfamily
      rw [h] at this
      cases this
    · omega
    · omega

/-- A sound filter dumps what it asks for. -/
theorem FilterSound.dumped_iff (h : FilterSound filter) {k : KernelSocket} (hk : k.Reported) :
    k.Dumped filter ↔ k.Satisfies filter := by
  rcases h with h | ⟨_, _, htcp, hudp⟩
  · exact iff_of_false (h.none k).1 (h.none k).2
  have hstates : k.protocol ∈ wantedProtocols filter →
      (k.state ∈ stateFlags filter k.protocol ↔
        filter.states = [] ∨ tcpStateNumber k.state ∈ filter.states) := by
    intro hwanted
    cases hprotocol : k.protocol with
    | tcp => exact mem_stateFlags_tcp hk.1 (htcp (hprotocol ▸ hwanted))
    | udp =>
      -- the mask of UDP is everything; the states of UDP are both listed
      refine iff_of_true (mem_stateFlags_udp.mpr hk.1) ?_
      rcases hudp (hprotocol ▸ hwanted) with hnil | ⟨hest, hclose⟩
      · exact .inl hnil
      · rcases hk.2 hprotocol with hstate | hstate
        · exact .inr (hstate ▸ hest)
        · exact .inr (hstate ▸ hclose)
  unfold KernelSocket.Dumped KernelSocket.Satisfies KernelSocket.Passes
  rw [mem_dumpPairs, ← mem_wantedProtocols, ← mem_wantedFamilies]
  constructor
  · rintro ⟨⟨hprotocol, hfamily⟩, hstate, hpasses⟩
    exact ⟨hprotocol, hfamily, (hstates hprotocol).mp hstate, hpasses⟩
  · rintro ⟨hprotocol, hfamily, hstate, hpasses⟩
    exact ⟨⟨hprotocol, hfamily⟩, (hstates hprotocol).mpr hstate, hpasses⟩

/-- A sound filter makes no dump twice, unless there is nothing to dump. -/
theorem FilterSound.pairs (h : FilterSound filter) :
    (dumpPairs filter).Nodup ∨ ∀ k : KernelSocket, ¬ k.Dumped filter := by
  rcases h with h | ⟨hprotocols, hfamilies, _⟩
  · exact .inr (fun k => (h.none k).1)
  · refine .inl (List.nodup_flatMap.mpr ⟨fun p _ => hfamilies.map (fun _ _ => by simp), ?_⟩)
    refine hprotocols.imp (fun {p q} hne x hp hq => hne ?_)
    obtain ⟨_, _, rfl⟩ := List.mem_map.mp hp
    obtain ⟨_, _, heq⟩ := List.mem_map.mp hq
    exact (congrArg Prod.fst heq).symm

/-! ### The condition is necessary -/

/-- A socket of this protocol, family and state that has the uid, the interface and the
    ports the filter asks for. -/
def sampleSocket (filter : SocketFilter) (p : Protocol) (f : Family) (state : Nat) :
    KernelSocket where
  protocol := p
  response :=
    { family := f, state, sourcePort := BitVec.ofNat 16 filter.localPort,
      destinationPort := BitVec.ofNat 16 filter.remotePort,
      interfaceId := filter.interfaceIndexes.headD 0, uid := filter.uids.headD 0 }

/-- The first of a list is in it, unless it is empty. -/
theorem headD_selected (l : List Nat) : l = [] ∨ l.headD 0 ∈ l := by
  cases l with
  | nil => exact .inl rfl
  | cons a l => exact .inr List.mem_cons_self

/-- The sample is made for the filter. -/
theorem sampleSocket_passes (hlocal : filter.localPort < 2 ^ 16)
    (hremote : filter.remotePort < 2 ^ 16) (p : Protocol) (f : Family) (state : Nat) :
    (sampleSocket filter p f state).Passes filter := by
  refine ⟨headD_selected _, headD_selected _, .inr ?_, .inr ?_⟩
  · simpa [sampleSocket] using hlocal
  · simpa [sampleSocket] using hremote

/-- A connected socket and a closed one there can be of either protocol. -/
theorem sampleSocket_established (filter : SocketFilter) (p : Protocol) (f : Family) :
    (sampleSocket filter p f 1).Reported :=
  ⟨(by decide : TcpState.established ∈ allStates), fun _ => .inl rfl⟩

/-- A closed socket is reported under any protocol. -/
theorem sampleSocket_close (filter : SocketFilter) (p : Protocol) (f : Family) :
    (sampleSocket filter p f 7).Reported :=
  ⟨(by decide : TcpState.close ∈ allStates), fun _ => .inr rfl⟩

section Necessary

variable {ifNames : Nat → Option String}

/-- A filter that is correct on every table dumps only what it asks for, and once. -/
theorem sample_of_correct
    (hall : ∀ table kernel, kernel.Exact table →
      ∃ dump, getSockets filter ifNames kernel = .ok dump ∧ Correct filter ifNames table dump)
    (hlocal : filter.localPort < 2 ^ 16) (hremote : filter.remotePort < 2 ^ 16)
    {p : Protocol} {f : Family} (hp : p ∈ wantedProtocols filter) (hf : f ∈ wantedFamilies filter)
    (state : Nat) (hreported : (sampleSocket filter p f state).Reported)
    (hmask : tcpStateToProto state ∈ stateFlags filter p) :
    (filter.states = [] ∨ tcpStateNumber (tcpStateToProto state) ∈ filter.states) ∧
      (dumpPairs filter).count (p, f) = 1 := by
  have hdumped : (sampleSocket filter p f state).Dumped filter :=
    ⟨mem_dumpPairs.mpr ⟨hp, hf⟩, hmask, sampleSocket_passes hlocal hremote p f state⟩
  obtain ⟨hsat, hcount⟩ :=
    single_of_correct hreported hdumped (hall _ _ (single_exact _ hreported))
  exact ⟨hsat.2.2.1, hcount⟩

/-- Every `TcpState` has a number in the kernel. -/
theorem exists_kernel_state (s : TcpState) : ∃ n, tcpStateToProto n = s := by
  cases s
  exacts [⟨0, rfl⟩, ⟨1, rfl⟩, ⟨2, rfl⟩, ⟨3, rfl⟩, ⟨4, rfl⟩, ⟨5, rfl⟩, ⟨6, rfl⟩, ⟨7, rfl⟩, ⟨8, rfl⟩,
    ⟨9, rfl⟩, ⟨10, rfl⟩, ⟨11, rfl⟩, ⟨12, rfl⟩]

/-- Every mask has a state in it that a socket of the protocol can be in. -/
theorem exists_state_in_mask (filter : SocketFilter) (p : Protocol) (f : Family) :
    ∃ state, (sampleSocket filter p f state).Reported ∧
      tcpStateToProto state ∈ stateFlags filter p := by
  cases p with
  | udp => exact ⟨1, sampleSocket_established _ _ _, mem_stateFlags_udp.mpr (by decide)⟩
  | tcp =>
    by_cases hlisted : ∃ s ∈ allStates, tcpStateNumber s ∈ filter.states
    · obtain ⟨s, hs, hmem⟩ := hlisted
      obtain ⟨n, rfl⟩ := exists_kernel_state s
      exact ⟨n, ⟨hs, fun h => by cases h⟩,
        (mem_stateFlags_tcp hs (.inr ⟨_, hs, hmem⟩)).mpr (.inr hmem)⟩
    · exact ⟨1, sampleSocket_established _ _ _, mem_stateFlags_tcp_of_none (by decide) hlisted⟩

/-- Correct on every table, so sound. -/
theorem filterSound_of_correct
    (hall : ∀ table kernel, kernel.Exact table →
      ∃ dump, getSockets filter ifNames kernel = .ok dump ∧
        Correct filter ifNames table dump) : FilterSound filter := by
  by_cases hnothing : AsksForNothing filter
  · exact .inl hnothing
  simp only [AsksForNothing, not_or, Nat.not_le] at hnothing
  obtain ⟨hprotocols, hfamilies, hlocal, hremote⟩ := hnothing
  obtain ⟨p₀, hp₀⟩ := List.exists_mem_of_ne_nil _ hprotocols
  obtain ⟨f₀, hf₀⟩ := List.exists_mem_of_ne_nil _ hfamilies
  have hnodup : (dumpPairs filter).Nodup := by
    refine List.nodup_iff_count_eq_one.mpr (fun x hx => ?_)
    obtain ⟨p, f⟩ := x
    obtain ⟨hp, hf⟩ := mem_dumpPairs.mp hx
    obtain ⟨state, hreported, hmask⟩ := exists_state_in_mask filter p f
    exact (sample_of_correct hall hlocal hremote hp hf state hreported hmask).2
  obtain ⟨hfams, hprots⟩ := List.nodup_flatMap.mp hnodup
  refine .inr ⟨?_, (hfams p₀ hp₀).of_map, fun htcp => ?_, fun hudp => ?_⟩
  · -- two equal protocols would share the pair with any family
    refine hprots.imp (fun {p q} hdisjoint heq => ?_)
    exact hdisjoint (List.mem_map.mpr ⟨f₀, hf₀, rfl⟩) (List.mem_map.mpr ⟨f₀, hf₀, by rw [heq]⟩)
  · by_contra hnone
    obtain ⟨hne, hnone⟩ := not_or.mp hnone
    have hsat := (sample_of_correct hall hlocal hremote htcp hf₀ 1
      (sampleSocket_established _ _ _) (mem_stateFlags_tcp_of_none (by decide) hnone)).1
    exact hnone ⟨.established, by decide, hsat.resolve_left hne⟩
  · have hest := (sample_of_correct hall hlocal hremote hudp hf₀ 1
      (sampleSocket_established _ _ _) (mem_stateFlags_udp.mpr (by decide))).1
    have hclose := (sample_of_correct hall hlocal hremote hudp hf₀ 7
      (sampleSocket_close _ _ _) (mem_stateFlags_udp.mpr (by decide))).1
    by_cases hnil : filter.states = []
    · exact .inl hnil
    · exact .inr ⟨hest.resolve_left hnil, hclose.resolve_left hnil⟩

end Necessary

/-- **Which filters are honoured.**  `get_sockets` reports what a filter asks for, whatever
    sockets the kernel has and in whatever order it lists them, if and only if the filter
    is sound. -/
theorem getSockets_correct_iff (filter : SocketFilter) (ifNames : Nat → Option String) :
    (∀ table kernel, kernel.Exact table →
      ∃ dump, getSockets filter ifNames kernel = .ok dump ∧ Correct filter ifNames table dump) ↔
    FilterSound filter := by
  constructor
  · exact filterSound_of_correct
  · intro h table kernel hkernel
    exact correct_of_dumped hkernel (fun k hk => h.dumped_iff hk) h.pairs

/-- Asked for connected UDP sockets. -/
def connectedUdp : SocketFilter := { protocols := [2], states := [1] }

/-- The kernel has one UDP socket, which is not connected. -/
def unboundUdp : KernelSocket := sampleSocket connectedUdp .udp .inet 7

/-- Asked for connected UDP sockets, the dump has one that is not connected. -/
theorem connectedUdp_incorrect :
    ¬ ∀ filter ifNames table kernel, Kernel.Exact kernel table →
      ∃ dump, getSockets filter ifNames kernel = .ok dump ∧
        Correct filter ifNames table dump := by
  intro hall
  have hreported : unboundUdp.Reported := by decide
  have hdumped : unboundUdp.Dumped connectedUdp := by decide
  have hsat := (single_of_correct hreported hdumped
    (hall connectedUdp (fun _ => none) _ _ (single_exact unboundUdp hreported))).1
  exact absurd hsat (by decide)

end Netdiag.Collect
