import Netdiag.Collect.Sockets
import Netdiag.Diag.Structural
import Netdiag.Lib.Ranking

namespace Netdiag.Collect

/-!
# Collect — the summary of a socket list

`summarize` of `daemon/src/collect/sockets.rs` counts the sockets of a list, and
`check_socket_states` of `daemon/src/diag/mod.rs` takes the counters apart by family again.

* `socketsOf` — sockets as `response_to_proto` makes them.
* `Counted` — what each counter counts; `counted_foldl` is the loop.
* `summarizeU32` — the same loop with counters that wrap; `summarizeU32_eq` says when they do not.
* `summarize_rows` — the counters of such sockets, and the figures of each family.
-/

open Netdiag.Diag

/-! ### The counters -/

/-- The sockets `response_to_proto` makes of these rows. -/
def socketsOf (ifNames : Nat → Option String) (rows : List (InetResponse × Protocol)) :
    List InetSocket :=
  rows.map (fun row => responseToProto row.1 row.2 ifNames)

/-- The sockets in one of these states. -/
def inStates (states : List TcpState) (sockets : List InetSocket) : Nat :=
  sockets.countP (fun s => states.contains s.state)

/-- The sockets of a family. -/
def inFamily (family : IpFamily) (sockets : List InetSocket) : Nat :=
  sockets.countP (fun s => s.family == family)

/-- The sockets of a family that are in SYN_SENT. -/
def synSentIn (family : IpFamily) (sockets : List InetSocket) : Nat :=
  sockets.countP (fun s => s.state == .synSent && s.family == family)

/-- What the counters count; `total` is set before the loop. -/
structure Counted (sockets : List InetSocket) (summary : InetSummary) : Prop where
  byState : Ranking.Tally (fun state => inStates [state] sockets) summary.byState
  byState_sum : (summary.byState.map Prod.snd).sum = sockets.length
  established : summary.established = inStates [.established] sockets
  synSent : summary.synSent = inStates [.synSent] sockets
  closeWait : summary.closeWait = inStates [.closeWait] sockets
  finWait : summary.finWait = inStates [.finWait1, .finWait2] sockets
  timeWait : summary.timeWait = inStates [.timeWait] sockets
  listen : summary.listen = inStates [.listen] sockets
  retransmitting : summary.retransmitting = sockets.countP (fun s => s.retransmitting.getD false)
  v4Count : summary.v4Count = inFamily .v4 sockets
  v6Count : summary.v6Count = inFamily .v6 sockets

/-- The count by state is a ranking's. -/
theorem bumpState_eq (state : TcpState) (entries : List (TcpState × Nat)) :
    bumpState state entries = Ranking.bump state entries := by
  induction entries with
  | nil => rfl
  | cons e rest ih =>
    obtain ⟨s, n⟩ := e
    rw [bumpState, Ranking.bump, ih]

/-- A socket more is counted if it is in one of the states. -/
theorem inStates_concat (states : List TcpState) (sockets : List InetSocket) (s : InetSocket) :
    inStates states (sockets ++ [s]) =
      inStates states sockets + if states.contains s.state then 1 else 0 := by
  rw [inStates, List.countP_append, List.countP_singleton]
  rfl

/-- A socket more is counted if it is of the family. -/
theorem inFamily_concat (family : IpFamily) (sockets : List InetSocket) (s : InetSocket) :
    inFamily family (sockets ++ [s]) =
      inFamily family sockets + if s.family == family then 1 else 0 := by
  rw [inFamily, List.countP_append, List.countP_singleton]
  rfl

/-- One turn of the loop, counter by counter. -/
theorem add_counters (summary : InetSummary) (s : InetSocket) :
    (summary.add s).byState = bumpState s.state summary.byState ∧
    (summary.add s).established =
      summary.established + (if [TcpState.established].contains s.state then 1 else 0) ∧
    (summary.add s).synSent =
      summary.synSent + (if [TcpState.synSent].contains s.state then 1 else 0) ∧
    (summary.add s).closeWait =
      summary.closeWait + (if [TcpState.closeWait].contains s.state then 1 else 0) ∧
    (summary.add s).finWait =
      summary.finWait + (if [TcpState.finWait1, .finWait2].contains s.state then 1 else 0) ∧
    (summary.add s).timeWait =
      summary.timeWait + (if [TcpState.timeWait].contains s.state then 1 else 0) ∧
    (summary.add s).listen =
      summary.listen + (if [TcpState.listen].contains s.state then 1 else 0) ∧
    (summary.add s).retransmitting =
      summary.retransmitting + (if s.retransmitting.getD false then 1 else 0) ∧
    (summary.add s).v4Count = summary.v4Count + (if s.family == .v4 then 1 else 0) ∧
    (summary.add s).v6Count = summary.v6Count + (if s.family == .v6 then 1 else 0) ∧
    (summary.add s).total = summary.total := by
  unfold InetSummary.add
  cases s.state <;> cases s.family <;> cases s.retransmitting.getD false <;>
    exact ⟨rfl, rfl, rfl, rfl, rfl, rfl, rfl, rfl, rfl, rfl, rfl⟩

/-- A socket more makes the counts one more in all. -/
theorem sum_bumpState (state : TcpState) (entries : List (TcpState × Nat)) :
    ((bumpState state entries).map Prod.snd).sum = (entries.map Prod.snd).sum + 1 := by
  induction entries with
  | nil => rfl
  | cons e rest ih =>
    obtain ⟨s, n⟩ := e
    unfold bumpState
    split
    · simp only [List.map_cons, List.sum_cons]
      omega
    · rw [List.map_cons, List.sum_cons, ih, List.map_cons, List.sum_cons]
      omega

/-- One more in a state is one more in the counts of the states. -/
theorem inStates_update (sockets : List InetSocket) (s : InetSocket) :
    (fun state => inStates [state] (sockets ++ [s])) =
      Function.update (fun state => inStates [state] sockets) s.state
        (inStates [s.state] sockets + 1) := by
  ext state
  rw [inStates_concat]
  by_cases eq : state = s.state
  · subst eq
    rw [Function.update_self, if_pos (by simp)]
  · have ne : ¬ s.state = state := fun h => eq h.symm
    rw [Function.update_of_ne eq, if_neg (by simpa using ne), Nat.add_zero]

/-- A turn of the loop counts its socket. -/
theorem Counted.add {sockets : List InetSocket} {summary : InetSummary}
    (h : Counted sockets summary) (s : InetSocket) :
    Counted (sockets ++ [s]) (summary.add s) := by
  obtain ⟨byState, established, synSent, closeWait, finWait, timeWait, listen, retransmitting,
    v4Count, v6Count, -⟩ := add_counters summary s
  refine
    { byState := ?_
      byState_sum := ?_
      established := by rw [established, h.established, inStates_concat]
      synSent := by rw [synSent, h.synSent, inStates_concat]
      closeWait := by rw [closeWait, h.closeWait, inStates_concat]
      finWait := by rw [finWait, h.finWait, inStates_concat]
      timeWait := by rw [timeWait, h.timeWait, inStates_concat]
      listen := by rw [listen, h.listen, inStates_concat]
      retransmitting := ?_
      v4Count := by rw [v4Count, h.v4Count, inFamily_concat]
      v6Count := by rw [v6Count, h.v6Count, inFamily_concat] }
  · rw [byState, bumpState_eq, inStates_update]
    exact h.byState.bump s.state
  · rw [byState, sum_bumpState, h.byState_sum, List.length_append, List.length_singleton]
  · rw [retransmitting, h.retransmitting, List.countP_append, List.countP_singleton]

/-- Nothing is counted at the start. -/
theorem counted_nil (total : Nat) : Counted [] { total } :=
  ⟨Ranking.Tally.nil, rfl, rfl, rfl, rfl, rfl, rfl, rfl, rfl, rfl, rfl⟩

/-- The loop counts. -/
theorem counted_foldl (sockets : List InetSocket) (total : Nat) :
    Counted sockets (sockets.foldl InetSummary.add { total }) := by
  induction sockets using List.reverseRecOn with
  | nil => exact counted_nil total
  | append_singleton sockets s ih =>
    rw [List.foldl_concat]
    exact ih.add s

/-- The loop does not touch the total. -/
theorem total_foldl (sockets : List InetSocket) (summary : InetSummary) :
    (sockets.foldl InetSummary.add summary).total = summary.total := by
  induction sockets generalizing summary with
  | nil => rfl
  | cons s sockets ih =>
    obtain ⟨-, -, -, -, -, -, -, -, -, -, total⟩ := add_counters summary s
    rw [List.foldl_cons, ih, total]

/-! ### `u32` -/

/-- The counters as `u32`s hold them. -/
def InetSummary.wrap (summary : InetSummary) : InetSummary :=
  { total := summary.total % 2 ^ 32
    established := summary.established % 2 ^ 32
    synSent := summary.synSent % 2 ^ 32
    closeWait := summary.closeWait % 2 ^ 32
    finWait := summary.finWait % 2 ^ 32
    timeWait := summary.timeWait % 2 ^ 32
    retransmitting := summary.retransmitting % 2 ^ 32
    byState := summary.byState.map (fun e => (e.1, e.2 % 2 ^ 32))
    listen := summary.listen % 2 ^ 32
    v4Count := summary.v4Count % 2 ^ 32
    v6Count := summary.v6Count % 2 ^ 32 }

/-- `summarize`, its counters `u32`s. -/
def summarizeU32 (sockets : List InetSocket) : InetSummary :=
  sockets.foldl (fun summary s => (summary.add s).wrap) { total := sockets.length % 2 ^ 32 }

/-- No counter reaches thirty-two bits before the list does. -/
theorem Counted.wrap_eq {sockets : List InetSocket} {summary : InetSummary}
    (h : Counted sockets summary) (short : sockets.length < 2 ^ 32)
    (total : summary.total < 2 ^ 32) : summary.wrap = summary := by
  have fits : ∀ {n : Nat} {p : InetSocket → Bool}, n = sockets.countP p → n % 2 ^ 32 = n := by
    intro n p counts
    have le : n ≤ sockets.length := counts ▸ List.countP_le_length
    exact Nat.mod_eq_of_lt (Nat.lt_of_le_of_lt le short)
  have entries : summary.byState.map (fun e => (e.1, e.2 % 2 ^ 32)) = summary.byState.map id := by
    apply List.map_congr_left
    intro e he
    rw [fits (h.byState.counted e he)]
    rfl
  unfold InetSummary.wrap
  rw [Nat.mod_eq_of_lt total, entries, List.map_id, fits h.established, fits h.synSent,
    fits h.closeWait, fits h.finWait, fits h.timeWait, fits h.retransmitting, fits h.listen,
    fits h.v4Count, fits h.v6Count]

/-- Below 2^32 sockets no counter wraps. -/
theorem summarizeU32_eq {sockets : List InetSocket} (short : sockets.length < 2 ^ 32) :
    summarizeU32 sockets = summarize sockets := by
  have run : ∀ l : List InetSocket, l.length < 2 ^ 32 →
      l.foldl (fun summary s => (summary.add s).wrap) { total := sockets.length } =
        l.foldl InetSummary.add { total := sockets.length } := by
    intro l hl
    induction l using List.reverseRecOn with
    | nil => rfl
    | append_singleton l s ih =>
      rw [List.length_append, List.length_singleton] at hl
      have counted := counted_foldl (l ++ [s]) sockets.length
      have total := total_foldl (l ++ [s]) { total := sockets.length }
      rw [List.foldl_concat] at counted total
      rw [List.foldl_concat, List.foldl_concat, ih (by omega)]
      apply counted.wrap_eq
      · rw [List.length_append, List.length_singleton]
        exact hl
      · rw [total]
        exact short
  rw [summarizeU32, Nat.mod_eq_of_lt short, run sockets short]
  rfl

/-! ### Rows -/

/-- The family of a row is that of its header. -/
theorem responseToProto_family (response : InetResponse) (protocol : Protocol)
    (ifNames : Nat → Option String) :
    (responseToProto response protocol ifNames).family =
      if response.family = .inet then .v4 else .v6 := by
  have nla : ∀ (nlas : List Nla) (s : InetSocket),
      (nlas.foldl InetSocket.withNla s).family = s.family := by
    intro nlas
    induction nlas with
    | nil => exact fun _ => rfl
    | cons nla nlas ih =>
      intro s
      rw [List.foldl_cons, ih]
      cases nla <;> rfl
  unfold responseToProto
  rw [nla]
  split
  · rename_i timer _
    cases timer <;> rfl
  · rfl

/-- Every socket of a row is of one of the two families. -/
theorem family_of_mem {ifNames : Nat → Option String} {rows : List (InetResponse × Protocol)}
    {s : InetSocket} (h : s ∈ socketsOf ifNames rows) : s.family = .v4 ∨ s.family = .v6 := by
  obtain ⟨row, -, rfl⟩ := List.mem_map.mp h
  rw [responseToProto_family]
  split
  · exact .inl rfl
  · exact .inr rfl

/-- What is counted is counted in one of the two families. -/
theorem countP_families {sockets : List InetSocket}
    (families : ∀ s ∈ sockets, s.family = .v4 ∨ s.family = .v6) (p : InetSocket → Bool) :
    sockets.countP p = sockets.countP (fun s => p s && s.family == .v4) +
      sockets.countP (fun s => p s && s.family == .v6) := by
  induction sockets with
  | nil => rfl
  | cons s sockets ih =>
    rw [List.forall_mem_cons] at families
    rw [List.countP_cons, List.countP_cons, List.countP_cons, ih families.2]
    rcases families.1 with v4 | v6
    · simp [v4]
      omega
    · simp [v6]
      omega

/-! ### The figures of the check -/

/-- Both figures of the check, whichever way it ends. -/
theorem checkSocketStates_evidence (state : DiagState) :
    let synSentV6 := (state.sockets.filter (fun s => s.state == .synSent && s.family == .v6)).length
    let synSent := state.socketSummary.synSent
    (checkSocketStates state).check.evidenceOf "syn_sent_v4" =
        some (toString (synSent - min synSentV6 synSent)) ∧
      (checkSocketStates state).check.evidenceOf "syn_sent_v6" = some (toString synSentV6) := by
  intro synSentV6 synSent
  unfold checkSocketStates
  dsimp only
  split_ifs
  · simp [CheckBuilder.skip, synSentV6, synSent]
  · simp [CheckBuilder.fail, synSentV6, synSent]
  · simp [CheckBuilder.warn, synSentV6, synSent]
  · simp [CheckBuilder.warn, synSentV6, synSent]
  · simp [CheckBuilder.pass, synSentV6, synSent]

/-! ### What the loops return -/

/-- Sockets of rows, no more of them than the filter allows. -/
def FromRows (filter : SocketFilter) (ifNames : Nat → Option String) (out : List InetSocket) :
    Prop :=
  ∃ rows, out = socketsOf ifNames rows ∧ out.length ≤ filter.rows

section Loops

variable {filter : SocketFilter} {ifNames : Nat → Option String}

/-- What is collected comes from rows that pass the filter. -/
theorem collectRows_fromRows (protocol : Protocol) (responses : List InetResponse)
    {out : List InetSocket} (h : FromRows filter ifNames out) :
    FromRows filter ifNames (collectRows filter ifNames protocol responses out).1 := by
  induction responses generalizing out with
  | nil => exact h
  | cons response responses ih =>
    simp only [collectRows]
    split
    · exact ih h
    · split
      · exact h
      · rename_i room
        apply ih
        obtain ⟨rows, rfl, -⟩ := h
        refine ⟨rows ++ [(response, protocol)], ?_, ?_⟩
        · rw [socketsOf, socketsOf, List.map_append]
          rfl
        · rw [List.length_append, List.length_singleton]
          omega

/-- Over all dumps as over one. -/
theorem collectDumps_fromRows (kernel : Kernel) (pairs : List (Protocol × Family))
    {out : List InetSocket} (h : FromRows filter ifNames out)
    {result : List InetSocket × Bool}
    (ok : collectDumps filter ifNames kernel pairs out = .ok result) :
    FromRows filter ifNames result.1 := by
  induction pairs generalizing out with
  | nil =>
    cases Except.ok.inj ok
    exact h
  | cons pair pairs ih =>
    obtain ⟨protocol, family⟩ := pair
    simp only [collectDumps] at ok
    split at ok
    · cases ok
    · rename_i responses _
      have rows := collectRows_fromRows protocol responses h
      split at ok
      · rename_i out' full
        cases Except.ok.inj ok
        rw [full] at rows
        exact rows
      · rename_i out' more
        rw [more] at rows
        exact ih rows ok

/-- A dump has the sockets of some rows, no more than the filter allows, and their summary. -/
theorem getSockets_fromRows {kernel : Kernel} {dump : SocketDump}
    (ok : getSockets filter ifNames kernel = .ok dump) :
    ∃ rows, dump.sockets = socketsOf ifNames rows ∧ dump.sockets.length ≤ filter.rows ∧
      dump.summary = summarize dump.sockets := by
  unfold getSockets at ok
  split at ok
  · cases ok
  split at ok
  · cases ok
  rename_i out truncated collected
  cases Except.ok.inj ok
  have none : FromRows filter ifNames [] := ⟨[], rfl, Nat.zero_le _⟩
  obtain ⟨rows, eq, le⟩ := collectDumps_fromRows kernel _ none collected
  exact ⟨rows, eq, le, rfl⟩

/-- A socket has the name of its interface, or none if the index is not known. -/
theorem responseToProto_named (response : InetResponse) (protocol : Protocol) :
    (responseToProto response protocol ifNames).interfaceName =
      (ifNames (responseToProto response protocol ifNames).interfaceIndex).getD "" := by
  unfold responseToProto
  apply List.foldlRecOn (motive := fun s : InetSocket =>
    s.interfaceName = (ifNames s.interfaceIndex).getD "") response.nlas InetSocket.withNla
  · cases response.timer with
    | none => rfl
    | some timer => cases timer <;> rfl
  · intro s hs nla _
    cases nla <;> exact hs

/-- Every socket has the name of its interface. -/
theorem getSockets_named {kernel : Kernel} {dump : SocketDump}
    (ok : getSockets filter ifNames kernel = .ok dump) :
    ∀ s ∈ dump.sockets, s.interfaceName = (ifNames s.interfaceIndex).getD "" := by
  obtain ⟨rows, eq, -⟩ := getSockets_fromRows ok
  intro s hs
  rw [eq] at hs
  obtain ⟨row, -, rfl⟩ := List.mem_map.mp hs
  exact responseToProto_named row.1 row.2

/-- A limit of thirty-two bits is a number of rows of as many. -/
theorem rows_lt (limit : filter.limit < 2 ^ 32) : filter.rows < 2 ^ 32 := by
  unfold SocketFilter.rows defaultSocketLimit
  split <;> omega

end Loops

/-! ### The summary of rows -/

/-- The counters agree with the list and with each other. -/
structure Summarized (sockets : List InetSocket) (summary : InetSummary) : Prop
    extends Counted sockets summary where
  total : summary.total = sockets.length
  states : (summary.byState.map Prod.snd).sum = summary.total
  families : summary.v4Count + summary.v6Count = summary.total

/-- The summary counts what it says, over any rows. -/
theorem summarized (ifNames : Nat → Option String) (rows : List (InetResponse × Protocol)) :
    Summarized (socketsOf ifNames rows) (summarize (socketsOf ifNames rows)) := by
  let sockets := socketsOf ifNames rows
  have counted : Counted sockets (summarize sockets) := counted_foldl sockets sockets.length
  have total : (summarize sockets).total = sockets.length := total_foldl sockets _
  have families : sockets.countP (fun _ => true) = _ :=
    countP_families (fun s hs => family_of_mem hs) (fun _ => true)
  refine { counted with total := total, states := ?_, families := ?_ }
  · rw [counted.byState_sum, total]
  · have length : sockets.countP (fun _ => true) = sockets.length :=
      congrFun List.countP_true sockets
    rw [counted.v4Count, counted.v6Count, total, ← length, families]
    rfl

/-- The figures of the check are the numbers of sockets in SYN_SENT of each family. -/
theorem synSent_families (ifNames : Nat → Option String) (rows : List (InetResponse × Protocol)) :
    inStates [.synSent] (socketsOf ifNames rows) =
      synSentIn .v4 (socketsOf ifNames rows) + synSentIn .v6 (socketsOf ifNames rows) := by
  have families : (socketsOf ifNames rows).countP (fun s => [TcpState.synSent].contains s.state) =
      _ := countP_families (fun s hs => family_of_mem hs) _
  have single : ∀ s : InetSocket, [TcpState.synSent].contains s.state = (s.state == .synSent) := by
    intro s
    rw [List.contains_cons, List.contains_nil, Bool.or_false]
  rw [inStates, families]
  simp only [single]
  rfl

/-- The summary of the sockets of rows: its counters agree with the list and with each other, the
    check splits them by family without underflow, and in a dump no counter wraps. -/
theorem summarize_rows (ifNames : Nat → Option String) (rows : List (InetResponse × Protocol)) :
    let sockets := socketsOf ifNames rows
    Summarized sockets (summarize sockets) ∧
    (∀ state : DiagState, state.sockets = sockets.map InetSocket.toSocket →
      state.socketSummary = (summarize sockets).toSocketSummary →
      synSentIn .v6 sockets ≤ state.socketSummary.synSent ∧
      (checkSocketStates state).check.evidenceOf "syn_sent_v4" =
        some (toString (synSentIn .v4 sockets)) ∧
      (checkSocketStates state).check.evidenceOf "syn_sent_v6" =
        some (toString (synSentIn .v6 sockets))) ∧
    (sockets.length < 2 ^ 32 → summarizeU32 sockets = summarize sockets) ∧
    ∀ filter kernel dump, filter.limit < 2 ^ 32 → getSockets filter ifNames kernel = .ok dump →
      ∃ rows, dump.sockets = socketsOf ifNames rows ∧ dump.summary = summarizeU32 dump.sockets := by
  intro sockets
  have all := summarized ifNames rows
  refine ⟨all, ?_, summarizeU32_eq, ?_⟩
  · intro state list summary
    -- The check counts one family and subtracts it from the total.
    have v6 : (state.sockets.filter (fun s => s.state == .synSent && s.family == .v6)).length =
        synSentIn .v6 sockets := by
      rw [list, ← List.countP_eq_length_filter, List.countP_map]
      rfl
    have counter : state.socketSummary.synSent =
        synSentIn .v4 sockets + synSentIn .v6 sockets := by
      rw [summary, ← synSent_families]
      exact all.synSent
    have le : synSentIn .v6 sockets ≤ state.socketSummary.synSent := by omega
    obtain ⟨evidenceV4, evidenceV6⟩ := checkSocketStates_evidence state
    rw [v6] at evidenceV4 evidenceV6
    refine ⟨le, ?_, evidenceV6⟩
    rw [evidenceV4, Nat.min_eq_left le, counter, Nat.add_sub_cancel]
  · intro filter kernel dump limit ok
    obtain ⟨rows, eq, le, summary⟩ := getSockets_fromRows ok
    refine ⟨rows, eq, ?_⟩
    rw [summary, summarizeU32_eq (Nat.lt_of_le_of_lt le (rows_lt limit))]

end Netdiag.Collect
