import Mathlib.Data.List.Perm.Subperm
import Netdiag.Collect.Sockets
import Netdiag.Lib.Text

namespace Netdiag.App.SocketsView

/-!
# App — the sockets screen

`sockets` of `slint-app/src/view.rs`: the sockets of a snapshot that the filters keep, sorted by
uid, one row each.

* `SocketFilters.keeps`, `socketRow`, `sockets` — the functions of the source.
* `reportedHidden` — the number in the line about hidden sockets.
* `Accounts` — the rows and that number account for every socket of the snapshot.
* `rows_length`, `reportedHidden_sockets` — each of the two, on its own.
* `sockets_accounts_iff` — when they add up.

The number of hidden sockets is taken before the list is cut, so what the cut drops is in neither.
-/

/-! ### Sockets and rows -/

/-- `TcpInfo`. -/
structure TcpInfo where
  rtoUs : Nat := 0
  atoUs : Nat := 0
  sndMss : Nat := 0
  rcvMss : Nat := 0
  unacked : Nat := 0
  sacked : Nat := 0
  lost : Nat := 0
  retrans : Nat := 0
  totalRetrans : Nat := 0
  rttUs : Nat := 0
  rttVarUs : Nat := 0
  sndCwnd : Nat := 0
  sndSsthresh : Nat := 0
  advmss : Nat := 0
  pmtu : Nat := 0
  lastDataSentMs : Nat := 0
  lastDataRecvMs : Nat := 0
  lastAckRecvMs : Nat := 0
  bytesSent : Nat := 0
  bytesReceived : Nat := 0
  caState : Nat := 0
  probes : Nat := 0
  backoff : Nat := 0
  retransmitting : Bool := false
  deriving DecidableEq, Repr

/-- `Socket`, as far as this screen reads it; `state` is the `i32` of the message. -/
structure Socket where
  state : Int := 0
  localAddress : Option IpAddress := none
  localPort : Nat := 0
  remoteAddress : Option IpAddress := none
  remotePort : Nat := 0
  uid : Nat := 0
  interfaceName : String := ""
  hasMark : Bool := false
  netId : Nat := 0
  tcpInfo : Option TcpInfo := none
  retransmits : Nat := 0
  deriving DecidableEq, Repr

/-- `Snapshot`, as far as this screen reads it. -/
structure Snapshot where
  sockets : List Socket
  socketSummary : Option Collect.InetSummary := none

/-- `ui::Status`. -/
inductive Status
  | pass
  | fail
  | warn
  | skip
  | info
  deriving DecidableEq, Repr

/-- `ui::Field`. -/
structure Field where
  key : String
  value : String
  status : Status
  mono : Bool
  deriving DecidableEq, Repr

/-- `ui::SocketRow`. -/
structure SocketRow where
  state : String
  status : Status
  tuple : String
  metaText : String
  owner : String
  health : String
  detail : List Field
  expanded : Bool
  deriving DecidableEq, Repr

/-- `ui::SocketsData`. -/
structure SocketsData where
  summary : String
  hidden : String
  rows : List SocketRow
  deriving DecidableEq, Repr

/-- `SocketFilters`. -/
structure SocketFilters where
  onlyEstablished : Bool := false
  onlyApps : Bool := false
  hideListen : Bool := false
  appUidFloor : Nat := 0
  deriving DecidableEq, Repr

/-- `TcpState::try_from(..).unwrap_or(TcpState::Unspecified)`. -/
def tcpState : Int → TcpState
  | 1 => .established
  | 2 => .synSent
  | 3 => .synRecv
  | 4 => .finWait1
  | 5 => .finWait2
  | 6 => .timeWait
  | 7 => .close
  | 8 => .closeWait
  | 9 => .lastAck
  | 10 => .listen
  | 11 => .closing
  | 12 => .newSynRecv
  | _ => .unspecified

/-- `tcp_state_label`. -/
def tcpStateLabel : TcpState → String
  | .established => "ESTABLISHED"
  | .synSent => "SYN_SENT"
  | .synRecv => "SYN_RECV"
  | .finWait1 => "FIN_WAIT1"
  | .finWait2 => "FIN_WAIT2"
  | .timeWait => "TIME_WAIT"
  | .close => "CLOSE"
  | .closeWait => "CLOSE_WAIT"
  | .lastAck => "LAST_ACK"
  | .listen => "LISTEN"
  | .closing => "CLOSING"
  | _ => "UNKNOWN"

/-- `socket_status`. -/
def socketStatus : TcpState → Status
  | .established => .pass
  | .synSent => .warn
  | .closeWait => .warn
  | .listen => .info
  | _ => .skip

/-- `SocketHealth`. -/
inductive SocketHealth
  | fine
  | struggling
  | stalled
  deriving DecidableEq, Repr

/-- `CA_STATE_RECOVERY`. -/
def caStateRecovery : Nat := 3

/-- `CA_STATE_LOSS`. -/
def caStateLoss : Nat := 4

/-- `socket_health`. -/
def socketHealth (info : TcpInfo) : SocketHealth :=
  if 1 < info.backoff ∨ 0 < info.probes ∨ info.caState = caStateLoss then .stalled
  else if info.retransmitting = true ∨ info.caState = caStateRecovery ∨ 0 < info.lost ∨
      (0 < info.unacked ∧ 0 < info.retrans) then .struggling
  else .fine

/-- One end of a connection, as `socket_tuple` writes it. -/
def endpoint (address : Option IpAddress) (port : Nat) : String :=
  let host := (address.map IpAddress.display).getD "-"
  s!"{host}:{port}"

/-- `socket_tuple`. -/
def socketTuple (socket : Socket) : String :=
  let localEnd := endpoint socket.localAddress socket.localPort
  let remoteEnd :=
    -- A socket that is not connected has no other end.
    if socket.remotePort = 0 then "*:*" else endpoint socket.remoteAddress socket.remotePort
  s!"{localEnd} -> {remoteEnd}"

/-- `health_line` and `tcp_info_fields`, which write fractions of milliseconds. -/
structure TcpTexts where
  healthLine : Socket → TcpInfo → String
  tcpInfoFields : TcpInfo → List Field

/-- `socket_row`. -/
def socketRow (texts : TcpTexts) (socket : Socket) (owner : String) : SocketRow :=
  let state := tcpState socket.state
  let metaText := s!"uid {socket.uid}" ++
    (if socket.hasMark && socket.netId != 0 then s!"  netId {socket.netId}" else "") ++
    (if socket.interfaceName.isEmpty then "" else s!"  {socket.interfaceName}")
  { state := tcpStateLabel state
    -- Bad health outweighs the state.
    status := match socket.tcpInfo.map socketHealth with
      | some .stalled => .fail
      | some .struggling => .warn
      | _ => socketStatus state
    tuple := socketTuple socket
    metaText
    owner
    health := (socket.tcpInfo.map (texts.healthLine socket)).getD ""
    detail := (socket.tcpInfo.map texts.tcpInfoFields).getD []
    expanded := false }

/-! ### The screen -/

/-- `SocketFilters::keeps`. -/
def SocketFilters.keeps (filters : SocketFilters) (socket : Socket) : Bool :=
  let state := tcpState socket.state
  if filters.onlyEstablished && state != .established then false
  else if filters.onlyApps && decide (socket.uid < filters.appUidFloor) then false
  else if filters.hideListen && state == .listen then false
  else true

/-- The comparison of the sort: by uid, then by state. -/
def socketLe (a b : Socket) : Bool :=
  decide (a.uid < b.uid ∨ (a.uid = b.uid ∧ a.state ≤ b.state))

/-- How many rows the screen has at most. -/
def rowLimit : Nat := 400

/-- `kept`: what the filters keep, sorted. -/
def kept (snapshot : Snapshot) (filters : SocketFilters) : List Socket :=
  (snapshot.sockets.filter filters.keeps).mergeSort socketLe

/-- `sockets`. -/
def sockets (texts : TcpTexts) (snapshot : Snapshot) (filters : SocketFilters)
    (ownerForUid : Nat → String) : SocketsData :=
  let kept := kept snapshot filters
  let total := snapshot.sockets.length
  let shown := kept.length
  let rows := (kept.take rowLimit).map
    (fun socket => socketRow texts socket (ownerForUid socket.uid))
  let summary := match snapshot.socketSummary with
    | some s =>
      s!"{s.total} sockets · {s.established} established · {s.listen} listening · " ++
        s!"{s.timeWait} time-wait"
    | none => s!"{total} sockets"
  -- The rows past the limit are not counted here.
  let hidden := if shown = total then "" else s!"{total - shown} hidden by filters"
  { summary, hidden, rows }

/-- The number at the start of the line about hidden sockets; none is zero. -/
def reportedHidden (data : SocketsData) : Nat :=
  Nat.ofDigitChars 10 (data.hidden.toList.takeWhile Char.isDigit) 0

/-! ### Accounting -/

/-- What stands between two sockets of a uid is of that uid. -/
def Adjacent (l : List Socket) : Prop :=
  ∀ a b c, [a, b, c].Sublist l → a.uid = c.uid → b.uid = a.uid

/-- The screen accounts for every socket: those of its rows, each a socket of the snapshot that the
    filters keep, no socket twice and those of a uid side by side, and the number that is reported
    as hidden. -/
structure Accounts (texts : TcpTexts) (snapshot : Snapshot) (filters : SocketFilters)
    (ownerForUid : Nat → String) (data : SocketsData) : Prop where
  rows : ∃ shown : List Socket,
    data.rows = shown.map (fun socket => socketRow texts socket (ownerForUid socket.uid)) ∧
      shown.Subperm (snapshot.sockets.filter filters.keeps) ∧ Adjacent shown
  counted : data.rows.length + reportedHidden data = snapshot.sockets.length

variable (texts : TcpTexts) (snapshot : Snapshot) (filters : SocketFilters)
  (ownerForUid : Nat → String)

theorem kept_perm : (kept snapshot filters).Perm (snapshot.sockets.filter filters.keeps) :=
  List.mergeSort_perm _ _

theorem length_kept : (kept snapshot filters).length = snapshot.sockets.countP filters.keeps := by
  rw [(kept_perm snapshot filters).length_eq, List.countP_eq_length_filter]

/-- There are as many rows as sockets that are kept, up to the limit. -/
theorem rows_length : (sockets texts snapshot filters ownerForUid).rows.length =
    min rowLimit (snapshot.sockets.countP filters.keeps) := by
  show (((kept snapshot filters).take rowLimit).map _).length = _
  rw [List.length_map, List.length_take, length_kept]

/-- The digits in front of another text are read back. -/
theorem ofDigitChars_takeWhile (n : Nat) :
    Nat.ofDigitChars 10 ((toString n ++ " hidden by filters").toList.takeWhile Char.isDigit) 0 =
      n := by
  have digits : (toString n).toList = Nat.toDigits 10 n := Nat.toList_repr
  have all : ∀ c ∈ Nat.toDigits 10 n, c.isDigit = true := by
    intro c hc
    exact Text.toDigits_isDigit hc
  -- No digit stands behind the number.
  have rest : (" hidden by filters").toList.takeWhile Char.isDigit = [] := by decide
  rw [String.toList_append, digits, List.takeWhile_append_of_pos all, rest, List.append_nil,
    Nat.ofDigitChars_ten_toDigits]

/-- The number of hidden sockets is that of the sockets the filters drop. -/
theorem reportedHidden_sockets : reportedHidden (sockets texts snapshot filters ownerForUid) =
    snapshot.sockets.length - snapshot.sockets.countP filters.keeps := by
  have hidden : (sockets texts snapshot filters ownerForUid).hidden =
      if (kept snapshot filters).length = snapshot.sockets.length then ""
      else toString (snapshot.sockets.length - (kept snapshot filters).length) ++
        " hidden by filters" := rfl
  rw [reportedHidden, hidden, length_kept]
  split
  -- No text stands for no sockets.
  · rename_i all
    rw [all, Nat.sub_self]
    rfl
  · rw [ofDigitChars_takeWhile]

theorem socketLe_trans (a b c : Socket) (hab : socketLe a b = true) (hbc : socketLe b c = true) :
    socketLe a c = true := by
  simp only [socketLe, decide_eq_true_eq] at hab hbc ⊢
  omega

theorem socketLe_total (a b : Socket) : (socketLe a b || socketLe b a) = true := by
  simp only [socketLe, Bool.or_eq_true, decide_eq_true_eq]
  omega

theorem kept_sorted : (kept snapshot filters).Pairwise (fun a b => a.uid ≤ b.uid) := by
  have sorted := List.pairwise_mergeSort socketLe_trans socketLe_total
    (snapshot.sockets.filter filters.keeps)
  apply sorted.imp
  intro a b le
  rw [socketLe, decide_eq_true_eq] at le
  omega

/-- In a list that is sorted by uid the sockets of a uid stand side by side. -/
theorem adjacent_of_sorted {l : List Socket} (sorted : l.Pairwise (fun a b => a.uid ≤ b.uid)) :
    Adjacent l := by
  intro a b c sub same
  have three := sorted.sublist sub
  rw [List.pairwise_cons, List.pairwise_pair] at three
  have first := three.1 b List.mem_cons_self
  have second := three.2
  omega

/-- The rows are always in order. -/
theorem sockets_rows : ∃ shown : List Socket,
    (sockets texts snapshot filters ownerForUid).rows =
      shown.map (fun socket => socketRow texts socket (ownerForUid socket.uid)) ∧
    shown.Subperm (snapshot.sockets.filter filters.keeps) ∧ Adjacent shown := by
  refine ⟨(kept snapshot filters).take rowLimit, rfl, ?_, ?_⟩
  · have taken := List.take_sublist rowLimit (kept snapshot filters)
    exact taken.subperm.trans (kept_perm snapshot filters).subperm
  · apply adjacent_of_sorted
    exact (kept_sorted snapshot filters).sublist (List.take_sublist rowLimit _)

/-- The screen accounts for every socket exactly when the filters keep no more than 400. -/
theorem sockets_accounts_iff :
    Accounts texts snapshot filters ownerForUid (sockets texts snapshot filters ownerForUid) ↔
      snapshot.sockets.countP filters.keeps ≤ 400 := by
  have le : snapshot.sockets.countP filters.keeps ≤ snapshot.sockets.length :=
    List.countP_le_length
  have rows := rows_length texts snapshot filters ownerForUid
  have hidden := reportedHidden_sockets texts snapshot filters ownerForUid
  rw [rowLimit] at rows
  constructor
  · intro accounts
    have counted := accounts.counted
    rw [rows, hidden] at counted
    omega
  · intro few
    refine ⟨sockets_rows texts snapshot filters ownerForUid, ?_⟩
    rw [rows, hidden]
    omega

/-- One more socket than there are rows, all of them established, and no filter is on. -/
def crowded : Snapshot :=
  { sockets := (List.range 401).map (fun n => { state := 1, localPort := n + 1, uid := 10000 }) }

/-- One of them is neither shown nor reported. -/
theorem crowded_unaccounted :
    ¬ Accounts ⟨fun _ _ => "", fun _ => []⟩ crowded {} (fun _ => "")
      (sockets ⟨fun _ _ => "", fun _ => []⟩ crowded {} (fun _ => "")) := by
  intro accounts
  have length : crowded.sockets.length = 401 := by
    rw [crowded, List.length_map, List.length_range]
  have all : crowded.sockets.countP (SocketFilters.keeps {}) = 401 := by
    rw [← length]
    apply List.countP_eq_length.mpr
    intro socket _
    rfl
  have counted := accounts.counted
  rw [rows_length, reportedHidden_sockets, all, length, rowLimit] at counted
  omega

end Netdiag.App.SocketsView
